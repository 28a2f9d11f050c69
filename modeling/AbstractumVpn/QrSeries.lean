import AbstractumVpn.DataStream
import AbstractumVpn.QrImport
import AbstractumVpn.Reassembly

/-!
A config that is too long for one QR code: `generateQrCodeImageSeries` cuts it
into chunks, and `parseQrCodeChunk` puts together what the camera reads, in
whatever order and however often.
-/

namespace AbstractumVpn.QrSeries

open ImportController QrImport Reassembly

/-! ## Images -/

structure Imaging where
  image : String → String
  scan : String → String
  reads : ∀ text, scan (image text) = text

def qrMagicCode : Nat := 1984

def chunkSize : Nat := 850

def chunksCount (data : Bytes) : Nat := (data.length + (chunkSize - 1)) / chunkSize % 256

/-- What is written for the chunk at offset `i`, whose number is `(quint8) std::round(i / k)`. -/
def chunk (data : Bytes) (i : Nat) : Bytes :=
  DataStream.writeNumber 2 qrMagicCode ++ DataStream.writeNumber 1 (chunksCount data) ++
    DataStream.writeNumber 1 ((2 * i + chunkSize) / (2 * chunkSize) % 256) ++
    DataStream.writeByteArray ((data.drop i).take chunkSize)

section Encoder

variable {codec : Codec} (packing : Packing codec) (imaging : Imaging) (data : Bytes)

def imagesFrom (i : Nat) : List String :=
  if i < data.length then
    imaging.image (packing.toBase64 (chunk data i)) :: imagesFrom (i + chunkSize)
  else []
termination_by data.length - i
decreasing_by
  simp only [chunkSize]
  omega

def generateQrCodeImageSeries : List String := imagesFrom packing imaging data 0

end Encoder

/-! ## The decoder -/

structure State where
  qrCodeChunks : List (Nat × Bytes) := []
  totalQrCodeChunksCount : Nat := 0
  receivedQrCodeChunksCount : Nat := 0
  isQrCodeProcessed : Bool := false

structure QrParseResult where
  success : Bool := false
  importResult : ImportResult := {}
  chunksReceived : Nat := 0
  chunksTotal : Nat := 0

def startDecodingQr (_ : State) : State where
  qrCodeChunks := []
  totalQrCodeChunksCount := 0
  receivedQrCodeChunksCount := 0
  isQrCodeProcessed := true

def assembled (state : State) : Bytes :=
  (List.range state.totalQrCodeChunksCount).flatMap fun i => (state.qrCodeChunks.lookup i).getD []

section Decoder

variable (codec : Codec) (parts : Parts)

def storeChunk (state : State) (fields : Bytes) : State :=
  let count := DataStream.readNumber 1 fields
  let chunkId := DataStream.readNumber 1 count.2
  let kept := if state.totalQrCodeChunksCount ≠ count.1 then [] else state.qrCodeChunks
  let chunks := keep kept chunkId.1 (DataStream.readByteArray chunkId.2).1
  { state with
    qrCodeChunks := chunks
    totalQrCodeChunksCount := count.1
    receivedQrCodeChunksCount := chunks.length }

def finishSeries (state : State) : QrParseResult × State :=
  let counts : QrParseResult :=
    { chunksReceived := state.receivedQrCodeChunksCount
      chunksTotal := state.totalQrCodeChunksCount }
  if state.qrCodeChunks.length = state.totalQrCodeChunksCount then
    let result := extractConfigFromQr codec parts (assembled state)
    if result.errorCode = .noError then
      ({ counts with success := true, importResult := result },
        { state with isQrCodeProcessed := false })
    else
      (counts, { state with
        qrCodeChunks := [], totalQrCodeChunksCount := 0, receivedQrCodeChunksCount := 0 })
  else (counts, state)

def parseSingleCode (state : State) (code : String) (ba : Bytes) : QrParseResult × State :=
  let counts : QrParseResult :=
    { chunksReceived := state.receivedQrCodeChunksCount
      chunksTotal := state.totalQrCodeChunksCount }
  let asText := extractConfigFromQr codec parts (codec.toUtf8 code)
  let result := if asText.errorCode ≠ .noError then extractConfigFromQr codec parts ba else asText
  if result.errorCode = .noError then
    ({ counts with success := true, importResult := result },
      { state with isQrCodeProcessed := false })
  else (counts, state)

def parseQrCodeChunk (state : State) (code : String) : QrParseResult × State :=
  if !state.isQrCodeProcessed then
    ({ chunksReceived := state.receivedQrCodeChunksCount
       chunksTotal := state.totalQrCodeChunksCount }, state)
  else
    let ba := codec.fromBase64 (codec.toUtf8 code)
    let magic := DataStream.readNumber 2 ba
    if magic.1 = qrMagicCode then finishSeries codec parts (storeChunk state magic.2)
    else parseSingleCode codec parts state code ba

variable (imaging : Imaging)

def afterImages (state : State) (images : List String) : State :=
  Runs.run (fun state image => (parseQrCodeChunk codec parts state (imaging.scan image)).2)
    (startDecodingQr state) images

end Decoder

section Chunks

variable {codec : Codec} (packing : Packing codec) (imaging : Imaging) {data : Bytes}

def imageOf (data : Bytes) (number : Nat) : String :=
  imaging.image (packing.toBase64 (chunk data (number * chunkSize)))

def needed (data : Bytes) : Nat := (data.length + (chunkSize - 1)) / chunkSize

lemma needed_enough (data : Bytes) : data.length ≤ needed data * chunkSize := by
  simp only [needed, chunkSize]
  omega

lemma images_from (number : Nat) :
    imagesFrom packing imaging data (number * chunkSize) =
      (List.range' number (needed data - number)).map (imageOf packing imaging data) := by
  induction left : needed data - number generalizing number with
  | zero =>
    have ended : ¬ number * chunkSize < data.length := by
      simp only [needed, chunkSize] at left ⊢
      omega
    rw [imagesFrom, if_neg ended]
    rfl
  | succ left ih =>
    have goes_on : number * chunkSize < data.length := by
      simp only [needed, chunkSize] at left ⊢
      omega
    rw [imagesFrom, if_pos goes_on, ← Nat.succ_mul, ih (number + 1) (by omega)]
    rfl

lemma series_eq :
    generateQrCodeImageSeries packing imaging data =
      (List.range (needed data)).map (imageOf packing imaging data) := by
  have all : imagesFrom packing imaging data (0 * chunkSize) = _ := images_from packing imaging 0
  rw [Nat.zero_mul, Nat.sub_zero, ← List.range_eq_range'] at all
  exact all

variable (few : needed data ≤ 255)

include few

lemma count_eq : chunksCount data = needed data := by
  rw [chunksCount, ← needed]
  omega

lemma chunk_fields (number : Nat) (small : number < needed data) :
    ∃ fields, DataStream.readNumber 2 (chunk data (number * chunkSize)) = (qrMagicCode, fields) ∧
      ∀ state, storeChunk state fields =
        let kept := if state.totalQrCodeChunksCount ≠ needed data then [] else state.qrCodeChunks
        { state with
          qrCodeChunks := keep kept number (piece chunkSize data number)
          totalQrCodeChunksCount := needed data
          receivedQrCodeChunksCount :=
            (keep kept number (piece chunkSize data number)).length } := by
  have id : (2 * (number * chunkSize) + chunkSize) / (2 * chunkSize) % 256 = number := by
    simp only [chunkSize]
    omega
  have size : (piece chunkSize data number).length < 4294967295 := by
    have bound : (piece chunkSize data number).length ≤ 850 := List.length_take_le _ _
    omega
  have count_read : ∀ rest, DataStream.readNumber 1 (DataStream.writeNumber 1 (needed data) ++ rest) =
      (needed data, rest) := DataStream.readNumber_write 1 _ (by omega)
  have id_read : ∀ rest, DataStream.readNumber 1 (DataStream.writeNumber 1 number ++ rest) =
      (number, rest) := DataStream.readNumber_write 1 _ (by omega)
  have bytes_read : DataStream.readByteArray (DataStream.writeByteArray
      (piece chunkSize data number)) = (piece chunkSize data number, []) := by
    simpa using DataStream.readByteArray_write (piece chunkSize data number) size []
  have layout : chunk data (number * chunkSize) =
      DataStream.writeNumber 2 qrMagicCode ++ (DataStream.writeNumber 1 (needed data) ++
        (DataStream.writeNumber 1 number ++
          DataStream.writeByteArray (piece chunkSize data number))) := by
    rw [chunk, count_eq few, id, List.append_assoc, List.append_assoc]
    rfl
  refine ⟨_, by rw [layout]; exact DataStream.readNumber_write 2 _ (by decide) _, fun state => ?_⟩
  simp [storeChunk, count_read, id_read, bytes_read]

end Chunks

/-! ## Reassembly -/

structure Progress (data : Bytes) (arrived : List Nat) (state : State) : Prop where
  holds : Holds (piece chunkSize data) arrived state.qrCodeChunks
  below : ∀ number ∈ arrived, number < needed data
  total : arrived ≠ [] → state.totalQrCodeChunksCount = needed data
  received : state.receivedQrCodeChunksCount = arrived.dedup.length
  active : state.isQrCodeProcessed = true ↔ ¬ Complete (needed data) arrived

section Progress

variable {codec : Codec} {parts : Parts} (packing : Packing codec) (imaging : Imaging)
  {data : Bytes} {arrived : List Nat} {state : State} {number : Nat}

structure Report (codec : Codec) (parts : Parts) (data : Bytes) (arrived : List Nat) (number : Nat)
    (result : QrParseResult) : Prop where
  success : result.success = true ↔
    ¬ Complete (needed data) arrived ∧ Complete (needed data) (arrived ++ [number])
  config : result.success = true → result.importResult = extractConfigFromQr codec parts data
  received : result.chunksReceived = (arrived ++ [number]).dedup.length
  total : result.chunksTotal = needed data

lemma start_progress (some_chunk : 0 < needed data) (state : State) :
    Progress data [] (startDecodingQr state) where
  holds := holds_nil
  below _ member := nomatch member
  total never := absurd rfl never
  received := rfl
  active := iff_of_true rfl fun complete => nomatch complete 0 some_chunk

lemma done_step (progress : Progress data arrived state) (small : number < needed data)
    (complete : Complete (needed data) arrived) (code : String) :
    Report codec parts data arrived number (parseQrCodeChunk codec parts state code).1 ∧
      Progress data (arrived ++ [number]) (parseQrCodeChunk codec parts state code).2 := by
  have inactive : state.isQrCodeProcessed = false := by
    rw [← Bool.not_eq_true, progress.active]
    exact not_not.mpr complete
  have old : number ∈ arrived := complete number small
  have nothing_new : (arrived ++ [number]).dedup.length = arrived.dedup.length :=
    (progress.holds.again old).size.symm.trans progress.holds.size
  have parsed : parseQrCodeChunk codec parts state code =
      ({ chunksReceived := state.receivedQrCodeChunksCount
         chunksTotal := state.totalQrCodeChunksCount }, state) := by
    rw [parseQrCodeChunk, inactive]
    rfl
  rw [parsed]
  constructor
  · constructor
    · simp [complete]
    · intro never
      cases never
    · exact progress.received.trans nothing_new.symm
    · exact progress.total (List.ne_nil_of_mem old)
  · constructor
    · exact progress.holds.again old
    · intro other member
      rcases List.mem_append.mp member with before | now
      · exact progress.below other before
      · rwa [List.mem_singleton.mp now]
    · exact fun _ => progress.total (List.ne_nil_of_mem old)
    · exact progress.received.trans nothing_new.symm
    · rw [progress.active]
      exact not_congr (iff_of_true complete fun other small =>
        List.mem_append_left _ (complete other small))

/-- The entries of another series are thrown away, and there are none of this one then. -/
lemma kept_chunks (progress : Progress data arrived state) :
    (if state.totalQrCodeChunksCount ≠ needed data then [] else state.qrCodeChunks) =
      state.qrCodeChunks := by
  by_cases first : arrived = []
  · have empty : state.qrCodeChunks = [] := by
      rw [← List.length_eq_zero_iff, progress.holds.size, first]
      rfl
    rw [empty, ite_self]
  · exact if_neg (not_not.mpr (progress.total first))

variable (few : needed data ≤ 255)
  (importable : (extractConfigFromQr codec parts data).errorCode = .noError)

include few importable

lemma arrival_step (progress : Progress data arrived state) (small : number < needed data)
    (incomplete : ¬ Complete (needed data) arrived) :
    let parsed := parseQrCodeChunk codec parts state
      (imaging.scan (imageOf packing imaging data number))
    Report codec parts data arrived number parsed.1 ∧
      Progress data (arrived ++ [number]) parsed.2 ∧
      (parsed.1.success = true → assembled parsed.2 = data) := by
  intro parsed
  have read : codec.fromBase64 (codec.toUtf8 (imaging.scan (imageOf packing imaging data number))) =
      chunk data (number * chunkSize) := by
    rw [imageOf, imaging.reads, packing.decodes]
  obtain ⟨fields, magic, stores⟩ := chunk_fields few number small
  have holds := progress.holds.keep number
  have below : ∀ other ∈ arrived ++ [number], other < needed data := by
    intro other member
    rcases List.mem_append.mp member with before | now
    · exact progress.below other before
    · rwa [List.mem_singleton.mp now]
  let stored : State :=
    { state with
      qrCodeChunks := keep state.qrCodeChunks number (piece chunkSize data number)
      totalQrCodeChunksCount := needed data
      receivedQrCodeChunksCount :=
        (keep state.qrCodeChunks number (piece chunkSize data number)).length }
  have stored_eq : storeChunk state fields = stored := by
    rw [stores]
    simp only [kept_chunks progress]
    rfl
  have finishes : parsed = finishSeries codec parts stored := by
    change parseQrCodeChunk codec parts state _ = _
    rw [parseQrCodeChunk, progress.active.mpr incomplete, Bool.not_true, if_neg Bool.false_ne_true]
    simp [read, magic, stored_eq]
  have full : stored.qrCodeChunks.length = stored.totalQrCodeChunksCount ↔
      Complete (needed data) (arrived ++ [number]) := by
    change (keep state.qrCodeChunks number _).length = needed data ↔ _
    rw [holds.size, complete_iff_count below]
  by_cases complete : Complete (needed data) (arrived ++ [number])
  · have whole : assembled stored = data := holds.join complete (needed_enough data)
    have succeeds : finishSeries codec parts stored =
        ({ success := true, importResult := extractConfigFromQr codec parts data
           chunksReceived := stored.receivedQrCodeChunksCount
           chunksTotal := stored.totalQrCodeChunksCount },
          { stored with isQrCodeProcessed := false }) := by
      rw [finishSeries, if_pos (full.mpr complete), whole, if_pos importable]
    rw [finishes, succeeds]
    refine ⟨⟨?_, fun _ => rfl, holds.size, rfl⟩, ⟨holds, below, fun _ => rfl, holds.size, ?_⟩,
      fun _ => whole⟩
    · exact iff_of_true rfl ⟨incomplete, complete⟩
    · exact iff_of_false Bool.false_ne_true (not_not.mpr complete)
  · have goes_on : finishSeries codec parts stored =
        ({ chunksReceived := stored.receivedQrCodeChunksCount
           chunksTotal := stored.totalQrCodeChunksCount }, stored) := by
      rw [finishSeries, if_neg (full.not.mpr complete)]
    rw [finishes, goes_on]
    refine ⟨⟨?_, fun never => (nomatch never), holds.size, rfl⟩,
      ⟨holds, below, fun _ => rfl, holds.size, ?_⟩, fun never => nomatch never⟩
    · exact iff_of_false Bool.false_ne_true fun both => complete both.2
    · exact iff_of_true (progress.active.mpr incomplete) complete

/-- What one image does, at any point of the series. -/
lemma image_step (progress : Progress data arrived state) (small : number < needed data) :
    let parsed := parseQrCodeChunk codec parts state
      (imaging.scan (imageOf packing imaging data number))
    Report codec parts data arrived number parsed.1 ∧
      Progress data (arrived ++ [number]) parsed.2 ∧
      (parsed.1.success = true → assembled parsed.2 = data) := by
  intro parsed
  by_cases complete : Complete (needed data) arrived
  · have done : Report codec parts data arrived number parsed.1 ∧
        Progress data (arrived ++ [number]) parsed.2 :=
      done_step progress small complete (imaging.scan (imageOf packing imaging data number))
    exact ⟨done.1, done.2, fun success => absurd complete (done.1.success.mp success).1⟩
  · exact arrival_step packing imaging few importable progress small complete

lemma images_progress (some_chunk : 0 < needed data) (before : State)
    (small : ∀ number ∈ arrived, number < needed data) :
    Progress data arrived (afterImages codec parts imaging before
      (arrived.map (imageOf packing imaging data))) := by
  induction arrived using List.reverseRecOn with
  | nil => exact start_progress some_chunk before
  | append_singleton arrived number ih =>
    have earlier := ih fun other member => small other (List.mem_append_left _ member)
    have last := small number (by simp)
    rw [List.map_append, afterImages, Runs.run_append]
    exact (image_step packing imaging few importable earlier last).2.1

end Progress

section Images

variable {codec : Codec} (packing : Packing codec) (imaging : Imaging) {data : Bytes}
  (few : needed data ≤ 255)

include few

lemma imageOf_injective {first second : Nat} (small : first < needed data)
    (other : second < needed data)
    (same : imageOf packing imaging data first = imageOf packing imaging data second) :
    first = second := by
  have texts := congrArg imaging.scan same
  rw [imageOf, imageOf, imaging.reads, imaging.reads] at texts
  have bytes : chunk data (first * chunkSize) = chunk data (second * chunkSize) := by
    rw [← packing.decodes (chunk data (first * chunkSize)), texts, packing.decodes]
  obtain ⟨fields, read, stores⟩ := chunk_fields few first small
  obtain ⟨fields', read', stores'⟩ := chunk_fields few second other
  rw [bytes, read'] at read
  have same_fields : fields' = fields := (Prod.mk.inj read).2
  have stored := stores' {}
  rw [same_fields, stores] at stored
  have entries := congrArg (fun state => numbers state.qrCodeChunks) stored
  simp only [numbers, keep, List.map_cons, List.cons.injEq] at entries
  exact entries.1

lemma dedup_images (arrived : List Nat) (small : ∀ number ∈ arrived, number < needed data) :
    (arrived.map (imageOf packing imaging data)).dedup.length = arrived.dedup.length := by
  have distinct : (arrived.dedup.map (imageOf packing imaging data)).Nodup := by
    apply (List.nodup_dedup arrived).map_on
    intro first member second other same
    exact imageOf_injective packing imaging few (small first (List.mem_dedup.mp member))
      (small second (List.mem_dedup.mp other)) same
  have same : (arrived.map (imageOf packing imaging data)).dedup.Perm
      (arrived.dedup.map (imageOf packing imaging data)) := by
    apply (List.perm_ext_iff_of_nodup (List.nodup_dedup _) distinct).mpr
    intro image
    simp
  rw [same.length_eq, List.length_map]

lemma series_subset_iff (arrived : List Nat) (small : ∀ number ∈ arrived, number < needed data) :
    generateQrCodeImageSeries packing imaging data ⊆ arrived.map (imageOf packing imaging data) ↔
      Complete (needed data) arrived := by
  rw [series_eq]
  constructor
  · intro all number inside
    obtain ⟨other, member, same⟩ :=
      List.mem_map.mp (all (List.mem_map_of_mem (List.mem_range.mpr inside)))
    exact imageOf_injective packing imaging few (small other member) inside same ▸ member
  · intro complete image member
    obtain ⟨number, inside, rfl⟩ := List.mem_map.mp member
    exact List.mem_map_of_mem (complete number (List.mem_range.mp inside))

end Images

lemma numbers_of_images {codec : Codec} (packing : Packing codec) (imaging : Imaging)
    (data : Bytes) (images : List String)
    (own : ∀ image ∈ images, image ∈ generateQrCodeImageSeries packing imaging data) :
    ∃ arrived : List Nat, (∀ number ∈ arrived, number < needed data) ∧
      images = arrived.map (imageOf packing imaging data) := by
  induction images with
  | nil => exact ⟨[], fun _ member => (nomatch member), rfl⟩
  | cons image rest ih =>
    obtain ⟨arrived, small, rfl⟩ := ih fun other member => own other (List.mem_cons_of_mem _ member)
    have member := own image List.mem_cons_self
    rw [series_eq] at member
    obtain ⟨number, inside, rfl⟩ := List.mem_map.mp member
    refine ⟨number :: arrived, fun other here => ?_, rfl⟩
    rcases List.mem_cons.mp here with rfl | later
    · exact List.mem_range.mp inside
    · exact small other later

/-- The images of a series read in any order, with any repetitions: the one that brings the last
missing chunk succeeds and no other, the bytes put together are those of the config, and the counts
are the distinct images read so far and the images of the series. -/
theorem series_round_trip (codec : Codec) (parts : Parts) (packing : Packing codec)
    (imaging : Imaging) (data : Bytes)
    (few : (generateQrCodeImageSeries packing imaging data).length ≤ 255)
    (importable : (extractConfigFromQr codec parts data).errorCode = .noError)
    (before : State) (images : List String) (image : String)
    (own : ∀ read ∈ images ++ [image], read ∈ generateQrCodeImageSeries packing imaging data) :
    let series := generateQrCodeImageSeries packing imaging data
    let parsed := parseQrCodeChunk codec parts (afterImages codec parts imaging before images)
      (imaging.scan image)
    (parsed.1.success = true ↔ ¬ series ⊆ images ∧ series ⊆ images ++ [image]) ∧
      (parsed.1.success = true → assembled parsed.2 = data ∧
        parsed.1.importResult = extractConfigFromQr codec parts data) ∧
      parsed.1.chunksReceived = (images ++ [image]).dedup.length ∧
      parsed.1.chunksTotal = series.length := by
  have length : (generateQrCodeImageSeries packing imaging data).length = needed data := by
    simp [series_eq]
  rw [length] at few
  obtain ⟨arrived, small, rfl⟩ := numbers_of_images packing imaging data images fun other member =>
    own other (List.mem_append_left _ member)
  obtain ⟨number, inside, rfl⟩ : ∃ number < needed data, image = imageOf packing imaging data number := by
    have member := own image (by simp)
    rw [series_eq] at member
    obtain ⟨number, inside, same⟩ := List.mem_map.mp member
    exact ⟨number, List.mem_range.mp inside, same.symm⟩
  have now : arrived.map (imageOf packing imaging data) ++ [imageOf packing imaging data number] =
      (arrived ++ [number]).map (imageOf packing imaging data) := by simp
  have small_now : ∀ other ∈ arrived ++ [number], other < needed data := by
    intro other member
    rcases List.mem_append.mp member with earlier | last
    · exact small other earlier
    · rwa [List.mem_singleton.mp last]
  have progress := images_progress packing imaging few importable (Nat.zero_lt_of_lt inside) before
    small
  obtain ⟨report, -, whole⟩ := image_step packing imaging few importable progress inside
  intro series parsed
  refine ⟨?_, fun success => ⟨whole success, report.config success⟩, ?_, ?_⟩
  · rw [now, series_subset_iff packing imaging few arrived small,
      series_subset_iff packing imaging few (arrived ++ [number]) small_now]
    exact report.success
  · rw [now, dedup_images packing imaging few (arrived ++ [number]) small_now]
    exact report.received
  · exact report.total.trans length.symm

/-! A config of two chunks. -/

def sameLetters (length : Nat) : String := String.ofList (List.replicate length 'a')

lemma sameLetters_format (length : Nat) : checkConfigFormat (sameLetters length) = .invalid := by
  have absent {mark : Char} (other : mark ≠ 'a') : mark ∉ (sameLetters length).toList := by
    rw [sameLetters, String.toList_ofList]
    exact fun member => other (List.eq_of_mem_replicate member)
  exact format_invalid (absent (by decide)) (absent (by decide)) (absent (by decide))

@[irreducible] def longJson : String := sameLetters 300

@[irreducible] def longData : Bytes := longJson.toList.flatMap charBytes

def plainImaging : Imaging := ⟨id, id, fun _ => rfl⟩

lemma long_needed : needed longData = 2 := by
  have length : longData.length = 900 := by
    have each : ∀ text : List Char, (text.flatMap charBytes).length = 3 * text.length := by
      intro text
      simp [charBytes, Nat.mul_comm]
    unfold longData longJson sameLetters
    rw [each, String.toList_ofList, List.length_replicate]
  rw [needed, length]
  rfl

lemma long_importable :
    (extractConfigFromQr (sampleCodec longJson ownServer) sampleParts longData).errorCode =
      .noError := by
  have text : (sampleCodec longJson ownServer).fromUtf8 longData = longJson := by
    rw [longData]
    exact (samplePacking longJson ownServer).utf8 longJson
  have kind : checkConfigFormat longJson = .invalid := by
    unfold longJson
    exact sameLetters_format 300
  have object : (sampleCodec longJson ownServer).object longData = ownServer := by
    rw [longData]
    exact sample_server longJson ownServer
  rw [extractConfigFromQr, text, if_neg (not_not.mpr kind), object, if_pos (by decide)]
  rfl

/-- The second chunk is read twice before the first. -/
theorem two_chunks_read :
    let codec := sampleCodec longJson ownServer
    let image := imageOf (samplePacking longJson ownServer) plainImaging longData
    let parsed := parseQrCodeChunk codec sampleParts
      (afterImages codec sampleParts plainImaging {} [image 1, image 1])
      (plainImaging.scan (image 0))
    parsed.1.success = true ∧ assembled parsed.2 = longData ∧ parsed.1.chunksReceived = 2 := by
  have series : generateQrCodeImageSeries (samplePacking longJson ownServer) plainImaging longData =
      [imageOf (samplePacking longJson ownServer) plainImaging longData 0,
        imageOf (samplePacking longJson ownServer) plainImaging longData 1] := by
    rw [series_eq, long_needed]
    rfl
  have distinct : imageOf (samplePacking longJson ownServer) plainImaging longData 0 ≠
      imageOf (samplePacking longJson ownServer) plainImaging longData 1 := by
    intro same
    have few : needed longData ≤ 255 := by
      rw [long_needed]
      decide
    have first : 0 < needed longData := by
      rw [long_needed]
      decide
    have second : 1 < needed longData := by
      rw [long_needed]
      decide
    exact absurd (imageOf_injective _ plainImaging few first second same) (by decide)
  obtain ⟨success, whole, received, -⟩ := series_round_trip (sampleCodec longJson ownServer)
    sampleParts (samplePacking longJson ownServer) plainImaging longData
    (by rw [series]; decide) long_importable {}
    [imageOf (samplePacking longJson ownServer) plainImaging longData 1,
      imageOf (samplePacking longJson ownServer) plainImaging longData 1]
    (imageOf (samplePacking longJson ownServer) plainImaging longData 0) (by rw [series]; simp)
  rw [series] at success
  have succeeds := success.mpr (by simp [distinct])
  have count := received.trans (by simp [distinct.symm] : _ = 2)
  exact ⟨succeeds, (whole succeeds).1, count⟩

end AbstractumVpn.QrSeries
