import NewsCraft.Publishing.Renderer

/-!
# What a plan delivers

The calls of a plan deliver each media asset once and in order, the body once, the buttons
once. They are followed from the first slice of the files to the last; the body and the
buttons are in the first call or in the message after the last one. A revision whose policy
is to omit its media keeps their ids, and none is sent.
-/

namespace NewsCraft.Publishing.Renderer

open Lib NewsCraft.Telegram List
open Checked (bind_ok_iff require_ok_iff orStop_ok_iff)

/-! ## What a call carries -/

def groupItems (fields : Json) : List Json :=
  match fields.get? "media" with
  | some (.arr items) => items
  | _ => []

def captions (fields : Json) : List Json :=
  (fields.get? "caption").toList ++ (groupItems fields).filterMap fun item => item.get? "caption"

def texts (fields : Json) : List Json := (fields.get? "text").toList

def markups (fields : Json) : List Json := (fields.get? "reply_markup").toList

/-- A file as it is sent, whatever it is attached as. -/
structure SentFile where
  path : String
  kind : TelegramMediaKind
  mimeType : String
  checksumSha256 : String

def sentFile (file : MediaFile) : SentFile :=
  ⟨file.2, file.1.kind, file.1.mimeType, file.1.checksumSha256⟩

def TelegramPublishOperation.sentFiles (op : TelegramPublishOperation) : List SentFile :=
  List.zipWith (fun path upload => ⟨path, upload.mediaType, upload.mimeType, upload.checksumSha256⟩)
    op.filePaths op.uploads

structure IsFileOf (E : RenderEnv) (item : MediaAsset) (file : SentFile) : Prop where
  path : item.storagePath = some file.path
  kind : mediaTypes.lookup (asciiLower item.kind) = some file.kind
  mimeType : file.mimeType = mimeTypeOf E item
  checksum : item.checksumSha256 = some file.checksumSha256

def markup (content : TelegramVariantContent) : List Json :=
  (markupField content).map Prod.snd

/-- What an operation of a group holds: two to ten files, and an item for each. -/
def GroupSized (method : TelegramMethod) (fields : Json) (files : Nat) : Prop :=
  method = .sendMediaGroup → 2 ≤ files ∧ files ≤ groupLimit ∧ (groupItems fields).length = files

/-- The operations deliver the content with these media. -/
structure Conserves (E : RenderEnv) (content : TelegramVariantContent) (assets : List MediaAsset)
    (operations : List TelegramPublishOperation) : Prop where
  media : List.Forall₂ (IsFileOf E) assets (operations.flatMap fun op => op.sentFiles)
  groups : ∀ op ∈ operations, GroupSized op.method op.fields op.uploads.length
  body : (operations.flatMap fun op => captions op.fields) = [.str content.body]
        ∧ content.body.length ≤ captionLimit ∧ (operations.flatMap fun op => texts op.fields) = []
    ∨ (operations.flatMap fun op => captions op.fields) = []
        ∧ (operations.flatMap fun op => texts op.fields) = [.str content.body]
  buttons : (operations.flatMap fun op => markups op.fields) = markup content

/-! ## Reading fields -/

theorem get?_nil (key : String) : (Json.obj []).get? key = none := rfl

theorem get?_cons (name key : String) (value : Json) (fields : List (String × Json)) :
    (Json.obj ((name, value) :: fields)).get? key
      = if name = key then some value else (Json.obj fields).get? key := by
  simp only [Json.get?, find?_cons]
  by_cases h : name = key
  · simp [h]
  · have hne : (name == key) = false := by simpa using h
    simp [h, hne]

theorem get?_markupField (content : TelegramVariantContent) (key : String) :
    (Json.obj (markupField content)).get? key
      = if key = "reply_markup" then (markup content).head? else none := by
  unfold markup markupField
  by_cases hbuttons : content.buttons = []
  · simp [hbuttons, get?_nil]
  · simp only [if_neg hbuttons, get?_cons, get?_nil, map_cons, map_nil, head?_cons]
    by_cases hkey : key = "reply_markup"
    · simp [hkey]
    · rw [if_neg hkey, if_neg (Ne.symm hkey)]

theorem toList_head?_markup (content : TelegramVariantContent) :
    (markup content).head?.toList = markup content := by
  unfold markup markupField
  by_cases hbuttons : content.buttons = []
  · simp [hbuttons]
  · simp [hbuttons]

theorem kind_text_ne (kind : TelegramMediaKind) :
    kind.text ≠ "caption" ∧ kind.text ≠ "text" ∧ kind.text ≠ "reply_markup"
      ∧ kind.text ≠ "media" := by
  cases kind <;> decide

section calls

variable (content : TelegramVariantContent) (targetRef : String)

/-! ## One call -/

theorem captions_messageCall : captions (messageCall content targetRef).fields = [] := by
  simp [messageCall, messageFields, captions, groupItems, get?_cons, get?_markupField]

theorem texts_messageCall : texts (messageCall content targetRef).fields = [.str content.body] := by
  simp [messageCall, messageFields, texts, get?_cons]

theorem markups_messageCall : markups (messageCall content targetRef).fields = markup content := by
  simp [messageCall, messageFields, markups, get?_cons, get?_markupField, toList_head?_markup]

theorem captions_singleCall (caption : Bool) (file : MediaFile) :
    captions (singleCall content targetRef caption file).fields
      = if caption then [.str content.body] else [] := by
  obtain ⟨hcaption, -, -, hmedia⟩ := kind_text_ne file.1.kind
  cases caption with
  | false =>
    simp [singleCall, singleMediaFields, captions, groupItems, get?_cons, get?_nil, hcaption,
      hmedia]
  | true =>
    simp [singleCall, singleMediaFields, captions, groupItems, get?_cons, get?_markupField,
      hcaption, hmedia]

theorem texts_singleCall (caption : Bool) (file : MediaFile) :
    texts (singleCall content targetRef caption file).fields = [] := by
  obtain ⟨-, htext, -, -⟩ := kind_text_ne file.1.kind
  cases caption with
  | false => simp [singleCall, singleMediaFields, texts, get?_cons, get?_nil, htext]
  | true => simp [singleCall, singleMediaFields, texts, get?_cons, get?_markupField, htext]

theorem markups_singleCall (caption : Bool) (file : MediaFile) :
    markups (singleCall content targetRef caption file).fields
      = if caption then markup content else [] := by
  obtain ⟨-, -, hmarkup, -⟩ := kind_text_ne file.1.kind
  cases caption with
  | false => simp [singleCall, singleMediaFields, markups, get?_cons, get?_nil, hmarkup]
  | true =>
    simp [singleCall, singleMediaFields, markups, get?_cons, get?_markupField, hmarkup,
      toList_head?_markup]

theorem groupItems_groupCallFields (caption : Bool) (group : List MediaFile) :
    groupItems (groupCallFields content targetRef caption group)
      = group.zipIdx.map fun entry => groupItem content caption entry.2 entry.1 := by
  simp [groupCallFields, groupItems, get?_cons]

theorem caption_groupItem (caption : Bool) (offset : Nat) (file : MediaFile) :
    (groupItem content caption offset file).get? "caption"
      = if caption ∧ offset = 0 then some (.str content.body) else none := by
  unfold groupItem
  by_cases hfirst : caption = true ∧ offset = 0
  · simp [hfirst, get?_cons]
  · simp [hfirst, get?_cons, get?_nil]

theorem filterMap_caption (caption : Bool) (group : List MediaFile) (offset : Nat) :
    ((group.zipIdx offset).map fun entry => groupItem content caption entry.2 entry.1).filterMap
        (fun item => item.get? "caption")
      = if caption ∧ offset = 0 ∧ group ≠ [] then [.str content.body] else [] := by
  induction group generalizing offset with
  | nil => simp
  | cons file group ih =>
    rw [zipIdx_cons, map_cons, filterMap_cons, caption_groupItem, ih]
    by_cases hfirst : caption = true ∧ offset = 0
    · simp [hfirst]
    · simp [hfirst]

theorem captions_groupCallFields (caption : Bool) {group : List MediaFile} (hgroup : group ≠ []) :
    captions (groupCallFields content targetRef caption group)
      = if caption then [.str content.body] else [] := by
  rw [captions, groupItems_groupCallFields, filterMap_caption]
  have hfield : (groupCallFields content targetRef caption group).get? "caption" = none := by
    simp [groupCallFields, get?_cons, get?_nil]
  simp [hfield, hgroup]

theorem texts_groupCallFields (caption : Bool) (group : List MediaFile) :
    texts (groupCallFields content targetRef caption group) = [] := by
  simp [groupCallFields, texts, get?_cons, get?_nil]

theorem markups_groupCallFields (caption : Bool) (group : List MediaFile) :
    markups (groupCallFields content targetRef caption group) = [] := by
  simp [groupCallFields, markups, get?_cons, get?_nil]

/-! ## One slice -/

theorem map_sentFile_attachFrom (offset : Nat) (files : List MediaFile) :
    (attachFrom offset files).map sentFile = files.map sentFile := by
  induction files generalizing offset with
  | nil => rfl
  | cons file files ih =>
    rw [attachFrom, map_cons, map_cons, ih]
    rfl

theorem length_attachFrom (offset : Nat) (files : List MediaFile) :
    (attachFrom offset files).length = files.length := by
  induction files generalizing offset with
  | nil => rfl
  | cons file files ih => rw [attachFrom, length_cons, length_cons, ih]

theorem attachFrom_ne_nil {offset : Nat} {files : List MediaFile} (h : files ≠ []) :
    attachFrom offset files ≠ [] := by
  intro hnil
  have hlength := length_attachFrom offset files
  rw [hnil, length_nil] at hlength
  exact h (eq_nil_of_length_eq_zero hlength.symm)

variable {slice : Nat × List MediaFile}

theorem sliceCall_cases (caption : Bool) (h : slice.2 ≠ []) :
    (∃ file, attachFrom 0 slice.2 = [file] ∧ sliceCall content targetRef caption slice
        = singleCall content targetRef (caption && slice.1 = 0) file)
      ∨ 2 ≤ (attachFrom 0 slice.2).length ∧ sliceCall content targetRef caption slice
        = ⟨.sendMediaGroup, groupCallFields content targetRef (caption && slice.1 = 0)
            (attachFrom 0 slice.2), attachFrom 0 slice.2⟩ := by
  have hne : attachFrom 0 slice.2 ≠ [] := attachFrom_ne_nil h
  unfold sliceCall
  cases hfiles : attachFrom 0 slice.2 with
  | nil => exact absurd hfiles hne
  | cons file rest =>
    cases rest with
    | nil => exact .inl ⟨file, rfl, rfl⟩
    | cons second rest => exact .inr ⟨by simp, rfl⟩

theorem captions_sliceCall (caption : Bool) (h : slice.2 ≠ []) :
    captions (sliceCall content targetRef caption slice).fields
      = if caption = true ∧ slice.1 = 0 then [.str content.body] else [] := by
  rcases sliceCall_cases content targetRef caption h with ⟨file, -, hcall⟩ | ⟨-, hcall⟩
  · rw [hcall, captions_singleCall]
    simp
  · rw [hcall, captions_groupCallFields content targetRef _ (attachFrom_ne_nil h)]
    simp

theorem texts_sliceCall (caption : Bool) (h : slice.2 ≠ []) :
    texts (sliceCall content targetRef caption slice).fields = [] := by
  rcases sliceCall_cases content targetRef caption h with ⟨file, -, hcall⟩ | ⟨-, hcall⟩
  · rw [hcall, texts_singleCall]
  · rw [hcall, texts_groupCallFields]

theorem markups_sliceCall (caption : Bool) (h : slice.2 ≠ [])
    (hcaption : caption = true → markup content = []) :
    markups (sliceCall content targetRef caption slice).fields = [] := by
  rcases sliceCall_cases content targetRef caption h with ⟨file, -, hcall⟩ | ⟨-, hcall⟩
  · rw [hcall, markups_singleCall]
    cases caption with
    | false => simp
    | true => simp [hcaption rfl]
  · rw [hcall, markups_groupCallFields]

theorem files_sliceCall (caption : Bool) (h : slice.2 ≠ []) :
    (sliceCall content targetRef caption slice).files.map sentFile = slice.2.map sentFile := by
  rcases sliceCall_cases content targetRef caption h with ⟨file, hfiles, hcall⟩ | ⟨-, hcall⟩
  · rw [hcall, ← map_sentFile_attachFrom 0 slice.2, hfiles]
    rfl
  · rw [hcall]
    exact map_sentFile_attachFrom 0 slice.2

theorem groupSized_sliceCall (caption : Bool) (h : slice.2 ≠ [])
    (hlength : slice.2.length ≤ groupLimit) :
    GroupSized (sliceCall content targetRef caption slice).method
      (sliceCall content targetRef caption slice).fields
      (sliceCall content targetRef caption slice).files.length := by
  rcases sliceCall_cases content targetRef caption h with ⟨file, -, hcall⟩ | ⟨hseveral, hcall⟩
  · rw [hcall]
    intro hmethod
    cases hkind : file.1.kind <;> simp [singleCall, singleMethod, hkind] at hmethod
  · rw [hcall]
    intro _
    refine ⟨hseveral, ?_, ?_⟩
    · rw [length_attachFrom]
      exact hlength
    · simp [groupItems_groupCallFields]

/-! ## All the files -/

/-- What the calls of the files carry, `caption` being whether the body goes with them. -/
structure Carries (caption : Bool) (files : List MediaFile) (calls : List Rendered) : Prop where
  captions : (calls.flatMap fun call => captions call.fields)
    = if caption then [.str content.body] else []
  texts : (calls.flatMap fun call => texts call.fields) = []
  markups : (calls.flatMap fun call => markups call.fields) = if caption then markup content else []
  files : (calls.flatMap fun call => call.files.map sentFile) = files.map sentFile
  groups : ∀ call ∈ calls, GroupSized call.method call.fields call.files.length

theorem carries_singleCall (caption : Bool) (file : MediaFile) :
    Carries content caption [file] [singleCall content targetRef caption file] where
  captions := by simp [captions_singleCall]
  texts := by simp [texts_singleCall]
  markups := by simp [markups_singleCall]
  files := by simp [singleCall]
  groups := by
    intro call hcall hmethod
    rw [mem_singleton.mp hcall] at hmethod
    cases hkind : file.1.kind <;> simp [singleCall, singleMethod, hkind] at hmethod

theorem flatMap_eq_nil {α β : Type} {l : List α} {f : α → List β} (h : ∀ x ∈ l, f x = []) :
    l.flatMap f = [] := by
  rw [flatMap_eq_nil_iff]
  exact h

theorem carries_slices (caption : Bool) (hcaption : caption = true → markup content = [])
    (file : MediaFile) (files : List MediaFile) :
    Carries content caption (file :: files)
      ((slices groupLimit (file :: files)).map (sliceCall content targetRef caption)) := by
  obtain ⟨rest, hslices, hrest⟩ :=
    slices_cons (show 0 < groupLimit by decide) file files
  have hfirst : ((file :: files).take groupLimit) ≠ [] := by simp [groupLimit]
  have hfirstLength : ((file :: files).take groupLimit).length ≤ groupLimit := by
    rw [length_take]
    omega
  have hall : ∀ slice ∈ slices groupLimit (file :: files),
      slice.2 ≠ [] ∧ slice.2.length ≤ groupLimit := by
    intro slice hslice
    rw [hslices, mem_cons] at hslice
    rcases hslice with rfl | hslice
    · exact ⟨hfirst, hfirstLength⟩
    · exact (hrest slice hslice).2
  constructor
  · rw [flatMap_map, hslices, flatMap_cons,
      captions_sliceCall content targetRef caption hfirst]
    have hlater : (rest.flatMap fun slice =>
        captions (sliceCall content targetRef caption slice).fields) = [] := by
      refine flatMap_eq_nil fun slice hslice => ?_
      have hstart := (hrest slice hslice).1
      rw [captions_sliceCall content targetRef caption (hrest slice hslice).2.1, if_neg (by omega)]
    rw [hlater]
    simp
  · rw [flatMap_map]
    exact flatMap_eq_nil fun slice hslice =>
      texts_sliceCall content targetRef caption (hall slice hslice).1
  · rw [flatMap_map]
    have hnone : (if caption then markup content else []) = [] := by
      cases caption with
      | false => rfl
      | true => exact hcaption rfl
    rw [hnone]
    exact flatMap_eq_nil fun slice hslice =>
      markups_sliceCall content targetRef caption (hall slice hslice).1 hcaption
  · rw [flatMap_map]
    have hfiles : ((slices groupLimit (file :: files)).flatMap fun slice =>
          (sliceCall content targetRef caption slice).files.map sentFile)
        = (slices groupLimit (file :: files)).flatMap fun slice => slice.2.map sentFile :=
      flatMap_congr fun slice hslice =>
        files_sliceCall content targetRef caption (hall slice hslice).1
    rw [hfiles, ← map_flatMap]
    exact congrArg (List.map sentFile) (flatMap_slices (by decide) (file :: files))
  · intro call hcall
    obtain ⟨slice, hslice, rfl⟩ := mem_map.mp hcall
    exact groupSized_sliceCall content targetRef caption (hall slice hslice).1 (hall slice hslice).2

/-- The body goes with the files unless it is too long or buttons need a message. -/
def captioned (files : List MediaFile) : Bool :=
  useCaption content && !forceMessage content files

theorem carries_mediaCalls {files : List MediaFile} (h : files ≠ []) :
    Carries content (captioned content files) files (mediaCalls content targetRef files) := by
  cases files with
  | nil => exact absurd rfl h
  | cons file files =>
    cases files with
    | nil =>
      have hone : captioned content [file] = useCaption content := by
        simp [captioned, forceMessage]
      rw [hone]
      exact carries_singleCall content targetRef (useCaption content) file
    | cons second files =>
      refine carries_slices content targetRef _ ?_ file (second :: files)
      intro hcaption
      have hbuttons : content.buttons = [] := by
        simpa [captioned, forceMessage] using (Bool.and_eq_true_iff.mp hcaption).2
      simp [markup, markupField, hbuttons]

end calls

/-! ## The media of a revision -/

variable {media : List MediaAsset} {id : UUID} {item : MediaAsset}

theorem mem_of_byId (h : byId media id = some item) : item ∈ media ∧ item.id = id := by
  have hmem := mem_of_getLast? h
  rw [mem_filter] at hmem
  exact ⟨hmem.1, by simpa using hmem.2⟩

theorem byId_eq_some_iff (hids : (media.map MediaAsset.id).Nodup) :
    byId media id = some item ↔ item ∈ media ∧ item.id = id := by
  constructor
  · exact mem_of_byId
  · intro h
    cases hlast : byId media id with
    | none =>
      rw [byId, getLast?_eq_none_iff] at hlast
      have hmem : item ∈ media.filter fun item => item.id = id :=
        mem_filter.mpr ⟨h.1, by simpa using h.2⟩
      rw [hlast] at hmem
      exact absurd hmem not_mem_nil
    | some other =>
      obtain ⟨hother, hid⟩ := mem_of_byId hlast
      exact congrArg some (inj_on_of_nodup_map hids hother h.1 (hid.trans h.2.symm))

theorem exists_byId (h : id ∈ media.map MediaAsset.id) :
    ∃ item, byId media id = some item ∧ item.id = id := by
  obtain ⟨item, hitem, hid⟩ := mem_map.mp h
  cases hlast : byId media id with
  | none =>
    rw [byId, getLast?_eq_none_iff] at hlast
    have hmem : item ∈ media.filter fun item => item.id = id :=
      mem_filter.mpr ⟨hitem, by simpa using hid⟩
    rw [hlast] at hmem
    exact absurd hmem not_mem_nil
  | some other => exact ⟨other, rfl, (mem_of_byId hlast).2⟩

theorem map_id_filterMap_byId (requested : List UUID)
    (h : ∀ id ∈ requested, id ∈ media.map MediaAsset.id) :
    (requested.filterMap (byId media)).map MediaAsset.id = requested := by
  induction requested with
  | nil => rfl
  | cons id rest ih =>
    obtain ⟨item, hitem, hid⟩ := exists_byId (h id mem_cons_self)
    rw [filterMap_cons, hitem, map_cons, hid,
      ih fun other hother => h other (mem_cons_of_mem id hother)]

theorem orderedMedia_ok {content : TelegramVariantContent} {ordered : List MediaAsset}
    (h : orderedMedia content media = .ok ordered) :
    ordered.map MediaAsset.id = content.mediaAssetIds ∧ ∀ item ∈ ordered, item ∈ media := by
  unfold orderedMedia at h
  simp only at h
  split at h
  · rename_i hmatch
    cases h
    refine ⟨map_id_filterMap_byId _ hmatch.2.2.2.2, ?_⟩
    intro item hitem
    obtain ⟨id, -, hid⟩ := mem_filterMap.mp hitem
    exact (mem_of_byId hid).1
  · cases h

theorem orderedMedia_perm {content : TelegramVariantContent} {media' : List MediaAsset}
    (h : media'.Perm media) : orderedMedia content media' = orderedMedia content media := by
  have hids : (media'.map MediaAsset.id).Perm (media.map MediaAsset.id) := h.map _
  unfold orderedMedia
  simp only [hids.nodup_iff, hids.length_eq, hids.mem_iff]
  split
  · rename_i hmatch
    have hsame : byId media' = byId media := by
      funext id
      refine Option.ext fun item => ?_
      rw [byId_eq_some_iff (hids.nodup_iff.mpr hmatch.1), byId_eq_some_iff hmatch.1, h.mem_iff]
    rw [hsame]
  · rfl

structure Described (E : RenderEnv) (item : MediaAsset) (index : Nat) (file : MediaFile) : Prop where
  isFileOf : IsFileOf E item (sentFile file)
  attached : file.1.media = attachRef index
  format : ∃ format ∈ uploadFormats, format.kind = file.1.kind
    ∧ format.mimeType = file.1.mimeType ∧ file.1.filename = uploadName index format.extension
  digest : ∃ content, file.1.checksumSha256 = E.sha256 content

theorem uploadFormat_eq_some {kind : TelegramMediaKind} {mimeType suffix : String}
    {format : UploadFormat} (h : uploadFormat kind mimeType suffix = some format) :
    format ∈ uploadFormats ∧ format.kind = kind ∧ format.mimeType = mimeType := by
  obtain ⟨hfind, -⟩ := Option.filter_eq_some_iff.mp h
  have hprops := find?_some hfind
  simp only [decide_eq_true_eq] at hprops
  exact ⟨mem_of_find?_eq_some hfind, hprops⟩

theorem mediaDescriptor_ok {E : RenderEnv} {index : Nat} {file : MediaFile}
    (h : mediaDescriptor E item index = .ok file) : Described E item index file := by
  rw [mediaDescriptor] at h
  obtain ⟨kind, hkind, h⟩ := bind_ok_iff.mp h
  obtain ⟨path, hpath, h⟩ := bind_ok_iff.mp h
  obtain ⟨_, -, h⟩ := bind_ok_iff.mp h
  obtain ⟨expected, hexpected, h⟩ := bind_ok_iff.mp h
  obtain ⟨_, -, h⟩ := bind_ok_iff.mp h
  obtain ⟨format, hformat, h⟩ := bind_ok_iff.mp h
  obtain ⟨content, -, h⟩ := bind_ok_iff.mp h
  obtain ⟨_, hchecksum, h⟩ := bind_ok_iff.mp h
  rw [orStop_ok_iff] at hkind hpath hexpected hformat
  rw [require_ok_iff] at hchecksum
  obtain ⟨hmem, hformatKind, hmime⟩ := uploadFormat_eq_some hformat
  cases h
  refine ⟨⟨?_, hkind, rfl, ?_⟩, rfl, ⟨format, hmem, hformatKind, hmime, rfl⟩, ⟨content, rfl⟩⟩
  · exact (Option.filter_eq_some_iff.mp hpath).1
  · rw [hexpected, hchecksum]
    rfl

theorem mediaDescriptors_ok {E : RenderEnv} {index : Nat} {items : List MediaAsset}
    {files : List MediaFile} (h : mediaDescriptors E index items = .ok files) :
    List.Forall₂ (fun item file => ∃ place, index ≤ place ∧ place < index + items.length
      ∧ Described E item place file) items files := by
  induction items generalizing index files with
  | nil =>
    cases h
    exact .nil
  | cons item rest ih =>
    rw [mediaDescriptors] at h
    obtain ⟨file, hfile, h⟩ := bind_ok_iff.mp h
    obtain ⟨others, hothers, h⟩ := bind_ok_iff.mp h
    cases h
    refine .cons ⟨index, Nat.le_refl _, by simp, mediaDescriptor_ok hfile⟩ ?_
    refine (ih hothers).imp fun other otherFile hother => ?_
    obtain ⟨place, hfrom, hbelow, hdescribed⟩ := hother
    refine ⟨place, by omega, ?_, hdescribed⟩
    rw [length_cons]
    omega

/-! ## The operations of the calls -/

section operations

variable {E : RenderEnv}

theorem flatMap_operationsFrom {β : Type} (f : Json → List β) (index : Nat) (calls : List Rendered) :
    ((operationsFrom E index calls).flatMap fun op => f op.fields)
      = calls.flatMap fun call => f call.fields := by
  induction calls generalizing index with
  | nil => rfl
  | cons call calls ih =>
    rw [operationsFrom, flatMap_cons, flatMap_cons, ih]
    rfl

theorem sentFiles_operation (index : Nat) (call : Rendered) :
    (operation E index call).sentFiles = call.files.map sentFile := by
  simp only [TelegramPublishOperation.sentFiles, operation, zipWith_map]
  induction call.files with
  | nil => rfl
  | cons file files ih =>
    rw [zipWith_cons_cons, map_cons, ih]
    rfl

theorem sentFiles_operationsFrom (index : Nat) (calls : List Rendered) :
    ((operationsFrom E index calls).flatMap fun op => op.sentFiles)
      = calls.flatMap fun call => call.files.map sentFile := by
  induction calls generalizing index with
  | nil => rfl
  | cons call calls ih =>
    rw [operationsFrom, flatMap_cons, flatMap_cons, ih, sentFiles_operation]

variable {calls : List Rendered}

theorem mem_operationsFrom {index : Nat} {op : TelegramPublishOperation}
    (h : op ∈ operationsFrom E index calls) :
    ∃ place, ∃ call ∈ calls, op = operation E place call := by
  induction calls generalizing index with
  | nil => exact absurd h not_mem_nil
  | cons call calls ih =>
    rw [operationsFrom, mem_cons] at h
    rcases h with rfl | h
    · exact ⟨index, call, mem_cons_self, rfl⟩
    · obtain ⟨place, other, hother, heq⟩ := ih h
      exact ⟨place, other, mem_cons_of_mem call hother, heq⟩

theorem groups_operationsFrom {index : Nat}
    (h : ∀ call ∈ calls, GroupSized call.method call.fields call.files.length) :
    ∀ op ∈ operationsFrom E index calls, GroupSized op.method op.fields op.uploads.length := by
  intro op hop
  obtain ⟨place, call, hcall, rfl⟩ := mem_operationsFrom hop
  have hsized := h call hcall
  rw [operation, length_map]
  exact hsized

theorem conserves_messageCall (content : TelegramVariantContent) (targetRef : String) :
    Conserves E content [] (operationsFrom E 0 [messageCall content targetRef]) where
  media := by
    rw [sentFiles_operationsFrom]
    exact .nil
  groups := groups_operationsFrom (by
    intro call hcall hmethod
    rw [mem_singleton.mp hcall] at hmethod
    cases hmethod)
  body := by
    refine .inr ⟨?_, ?_⟩
    · rw [flatMap_operationsFrom captions]
      simp [captions_messageCall]
    · rw [flatMap_operationsFrom texts]
      simp [texts_messageCall]
  buttons := by
    rw [flatMap_operationsFrom markups]
    simp [markups_messageCall]

theorem conserves_calls {content : TelegramVariantContent} (targetRef : String)
    {assets : List MediaAsset} {files : List MediaFile}
    (hassets : List.Forall₂ (IsFileOf E) assets (files.map sentFile))
    (hcarries : Carries content (captioned content files) files calls) :
    Conserves E content assets (operationsFrom E 0 (calls
      ++ if !captioned content files then [messageCall content targetRef] else [])) := by
  refine ⟨?_, groups_operationsFrom ?_, ?_, ?_⟩
  · rw [sentFiles_operationsFrom, flatMap_append, hcarries.files]
    cases captioned content files <;> simpa [messageCall] using hassets
  · intro call hcall
    rw [mem_append] at hcall
    rcases hcall with hcall | hcall
    · exact hcarries.groups call hcall
    · intro hmethod
      split at hcall
      · rw [mem_singleton.mp hcall] at hmethod
        cases hmethod
      · exact absurd hcall not_mem_nil
  · rw [flatMap_operationsFrom captions, flatMap_operationsFrom texts, flatMap_append,
      flatMap_append, hcarries.captions, hcarries.texts]
    cases hcaption : captioned content files with
    | true =>
      refine .inl ⟨by simp, ?_, by simp⟩
      simpa [useCaption] using (Bool.and_eq_true_iff.mp hcaption).1
    | false => exact .inr ⟨by simp [captions_messageCall], by simp [texts_messageCall]⟩
  · rw [flatMap_operationsFrom markups, flatMap_append, hcarries.markups]
    cases captioned content files with
    | true => simp
    | false => simp [markups_messageCall]

end operations

/-! ## Plans -/

def sentMediaIds (content : TelegramVariantContent) : List UUID :=
  if content.mediaPolicy = .omit then [] else content.mediaAssetIds

theorem renderMedia_ok {E : RenderEnv} {content : TelegramVariantContent}
    {ordered : List MediaAsset} {targetRef : String} {calls : List Rendered}
    (hne : ordered ≠ []) (h : renderMedia E content ordered targetRef = .ok calls) :
    Conserves E content ordered (operationsFrom E 0 calls) := by
  rw [renderMedia] at h
  obtain ⟨files, hfiles, h⟩ := bind_ok_iff.mp h
  obtain ⟨_, -, h⟩ := bind_ok_iff.mp h
  cases h
  have hdescribed := mediaDescriptors_ok hfiles
  have hfilesNe : files ≠ [] := by
    intro hnil
    rw [hnil] at hdescribed
    exact hne (forall₂_nil_right_iff.mp hdescribed)
  have hassets : List.Forall₂ (IsFileOf E) ordered (files.map sentFile) := by
    rw [forall₂_map_right_iff]
    refine hdescribed.imp fun item file hfile => ?_
    obtain ⟨_, -, -, hfile⟩ := hfile
    exact hfile.isFileOf
  have hcalls := conserves_calls targetRef hassets (carries_mediaCalls content targetRef hfilesNe)
  have hmessage : (!captioned content files)
      = (!useCaption content || forceMessage content files) := by
    rw [captioned, Bool.not_and, Bool.not_not]
  rw [hmessage] at hcalls
  exact hcalls

theorem renderContent_ok {E : RenderEnv} {content : TelegramVariantContent} {targetRef : String}
    {calls : List Rendered} (h : renderContent E content media targetRef = .ok calls) :
    ∃ assets : List MediaAsset, assets.map MediaAsset.id = sentMediaIds content
      ∧ (∀ item ∈ assets, item ∈ media) ∧ Conserves E content assets (operationsFrom E 0 calls) := by
  rw [renderContent] at h
  obtain ⟨_, -, h⟩ := bind_ok_iff.mp h
  by_cases hplain : content.mediaPolicy = .omit ∨ content.mediaAssetIds = []
  · rw [if_pos hplain] at h
    cases h
    refine ⟨[], ?_, by simp, conserves_messageCall content targetRef⟩
    rcases hplain with homit | hnone
    · simp [sentMediaIds, homit]
    · simp [sentMediaIds, hnone]
  · rw [if_neg hplain] at h
    rw [not_or] at hplain
    obtain ⟨ordered, hordered, h⟩ := bind_ok_iff.mp h
    obtain ⟨hids, hmem⟩ := orderedMedia_ok hordered
    refine ⟨ordered, ?_, hmem, renderMedia_ok ?_ h⟩
    · rw [hids, sentMediaIds, if_neg hplain.1]
    · intro hnil
      rw [hnil] at hids
      exact hplain.2 hids.symm

theorem renderContent_perm (E : RenderEnv) (content : TelegramVariantContent) (targetRef : String)
    {media' : List MediaAsset} (h : media'.Perm media) :
    renderContent E content media' targetRef = renderContent E content media targetRef := by
  unfold renderContent
  rw [orderedMedia_perm h]

/-- **A plan delivers its content.** Unless they are omitted every media asset of the
revision is sent once and in order, groups have two to ten items, the body is sent once
and the buttons are, and the order of the media rows changes nothing. -/
theorem buildPublishPlan_conserves (E : RenderEnv) (revision : PlatformRevision)
    (media : List MediaAsset) (destination : PublishDestination) :
    (∀ media', media'.Perm media →
      buildPublishPlan E revision media' destination = buildPublishPlan E revision media destination)
      ∧ ∀ plan, buildPublishPlan E revision media destination = .ok plan →
          ∃ assets : List MediaAsset, assets.map MediaAsset.id = sentMediaIds revision.content
              ∧ (∀ item ∈ assets, item ∈ media)
              ∧ Conserves E revision.content assets plan.operations := by
  constructor
  · intro media' hperm
    rw [buildPublishPlan, buildPublishPlan, renderContent_perm E _ _ hperm]
  · intro plan h
    rw [buildPublishPlan] at h
    obtain ⟨calls, hcalls, h⟩ := bind_ok_iff.mp h
    cases h
    exact renderContent_ok hcalls

/-! ## Two photos -/

/-- Every file is there, and they have one hash. -/
def plainRender : RenderEnv where
  text := .ascii
  sha256 _ := String.ofList (List.replicate 64 '0')
  dumps _ := []
  storedFile _ := .bytes []
  sha256_hex _ := by decide +kernel

def storedPhoto (id : UUID) : MediaAsset where
  id := id
  kind := "image"
  storagePath := some "media/photo.jpg"
  fetchStatus := "downloaded"
  checksumSha256 := some (String.ofList (List.replicate 64 '0'))
  mimeType := some "image/jpeg"

def photoContent (mediaPolicy : MediaPolicy) : TelegramVariantContent where
  body := "Two photos"
  buttons := []
  mediaPolicy := mediaPolicy
  mediaAssetIds := [7, 8]
  body_bounds := by decide
  buttons_le := by decide

theorem photos_conserved : ∃ plan assets, buildPublishPlan plainRender ⟨1, photoContent .preserve⟩
        [storedPhoto 8, storedPhoto 7] ⟨2, "@news"⟩ = .ok plan
      ∧ assets.map MediaAsset.id = [7, 8]
      ∧ Conserves plainRender (photoContent .preserve) assets plan.operations := by
  have hok : (buildPublishPlan plainRender ⟨1, photoContent .preserve⟩
      [storedPhoto 8, storedPhoto 7] ⟨2, "@news"⟩).toOption.isSome = true := by decide +kernel
  cases hplan : buildPublishPlan plainRender ⟨1, photoContent .preserve⟩
      [storedPhoto 8, storedPhoto 7] ⟨2, "@news"⟩ with
  | error stop =>
    rw [hplan] at hok
    cases hok
  | ok plan =>
    obtain ⟨assets, hids, -, hconserves⟩ := (buildPublishPlan_conserves plainRender
      ⟨1, photoContent .preserve⟩ [storedPhoto 8, storedPhoto 7] ⟨2, "@news"⟩).2 plan hplan
    exact ⟨plan, assets, rfl, hids, hconserves⟩

/-- Omitted, the two photos of the revision are in no operation. -/
theorem photos_omitted : (photoContent .omit).mediaAssetIds = [7, 8]
      ∧ ∃ plan, buildPublishPlan plainRender ⟨1, photoContent .omit⟩
          [storedPhoto 7, storedPhoto 8] ⟨2, "@news"⟩ = .ok plan
        ∧ plan.operations.flatMap TelegramPublishOperation.sentFiles = [] :=
  ⟨rfl, _, rfl, rfl⟩

end NewsCraft.Publishing.Renderer
