import AbstractumVpn.XrayNames

/-!
The settings of the xhttp transport, with its multiplexing and its padding, from
the object that is written for them: which of them are written again as they
were.
-/

namespace AbstractumVpn.XrayInstaller

open Json XrayServerConfig XrayConfigurator QtText

lemma muxFields_keys (xmux : Xmux) : (muxFields xmux).map Prod.fst =
    ["cMaxReuseTimes", "hKeepAlivePeriod", "hMaxRequestTimes", "hMaxReusableSecs", "maxConcurrency",
      "maxConnections"] := rfl

lemma muxFields_distinct (xmux : Xmux) : ((muxFields xmux).map Prod.fst).Nodup := by
  rw [muxFields_keys]
  decide

lemma lookup_mux (xmux : Xmux) (key : String) :
    (ofFields (muxFields xmux)).lookup key = ((muxFields xmux).lookup key).join :=
  lookup_ofFields (muxFields_distinct xmux) key

structure RangesGiven (xmux : Xmux) : Prop where
  maxConcurrency : Given xmux.maxConcurrencyMin xmux.maxConcurrencyMax
  maxConnections : Given xmux.maxConnectionsMin xmux.maxConnectionsMax
  cMaxReuseTimes : Given xmux.cMaxReuseTimesMin xmux.cMaxReuseTimesMax
  hMaxRequestTimes : Given xmux.hMaxRequestTimesMin xmux.hMaxRequestTimesMax
  hMaxReusableSecs : Given xmux.hMaxReusableSecsMin xmux.hMaxReusableSecsMax

lemma muxFields_again_iff (xmux : Xmux) :
    muxFields (readMux (ofFields (muxFields xmux)) {}) = muxFields xmux ↔ RangesGiven xmux := by
  have keepAlive : longIfAny (readLong (ofFields (muxFields xmux)) "hKeepAlivePeriod" "") =
      longIfAny xmux.hKeepAlivePeriod := by
    apply longIfAny_again
    rw [lookup_mux]
    rfl
  have again (key least most : String)
      (written : ((muxFields xmux).lookup key).join = rangeIfAny least most "0" "0") :
      rangeAgain "0" "0" "0" "0" (Object.value (ofFields (muxFields xmux)) key) =
        rangeIfAny least most "0" "0" ↔ Given least most := by
    rw [Object.value, lookup_mux, written]
    exact rangeAgain_iff "0" "0" "0" "0" (Or.inl (by decide))
  have fields : muxFields (readMux (ofFields (muxFields xmux)) {}) =
      let obj := ofFields (muxFields xmux)
      let rangeOf (key : String) := (key, rangeAgain "0" "0" "0" "0" (obj.value key))
      [rangeOf "cMaxReuseTimes", ("hKeepAlivePeriod", longIfAny (readLong obj "hKeepAlivePeriod" "")),
        rangeOf "hMaxRequestTimes", rangeOf "hMaxReusableSecs", rangeOf "maxConcurrency",
        rangeOf "maxConnections"] := rfl
  rw [fields]
  conv =>
    lhs
    rhs
    rw [muxFields]
  simp only [List.cons.injEq, Prod.mk.injEq, true_and, and_true, keepAlive,
    again "cMaxReuseTimes" _ _ rfl, again "hMaxRequestTimes" _ _ rfl,
    again "hMaxReusableSecs" _ _ rfl, again "maxConcurrency" _ _ rfl,
    again "maxConnections" _ _ rfl]
  constructor
  · rintro ⟨reuse, requests, secs, concurrency, connections⟩
    exact ⟨concurrency, connections, reuse, requests, secs⟩
  · intro given
    exact ⟨given.cMaxReuseTimes, given.hMaxRequestTimes, given.hMaxReusableSecs,
      given.maxConcurrency, given.maxConnections⟩

lemma muxObject_given {xmux : Xmux} (enabled : xmux.enabled = true) (given : RangesGiven xmux) :
    muxObject xmux = some (.object (ofFields (muxFields xmux))) := by
  have some_field : ofFields (muxFields xmux) ≠ [] := by
    rw [muxFields, rangeIfAny_given _ _ given.cMaxReuseTimes]
    exact List.cons_ne_nil _ _
  simp [muxObject, enabled, some_field]

lemma muxObject_some {xmux : Xmux} {object : Value} (written : muxObject xmux = some object) :
    xmux.enabled = true ∧ object = .object (ofFields (muxFields xmux)) ∧
      ofFields (muxFields xmux) ≠ [] := by
  unfold muxObject at written
  split at written
  · rename_i both
    obtain ⟨enabled, some_field⟩ := Bool.and_eq_true_iff.mp both
    cases written
    exact ⟨enabled, rfl, by simpa using some_field⟩
  · cases written

/-- The multiplexing is written again as it was if it is enabled with all its ranges. -/
lemma muxObject_again_iff {object : Object} {xmux : Xmux}
    (written : object.lookup "xmux" = muxObject xmux) :
    muxObject (if object.contains "xmux" then readMux (object.value "xmux").toObject {} else {}) =
      muxObject xmux ↔ xmux.enabled = true ∧ RangesGiven xmux := by
  rw [Object.contains, Object.value, written]
  cases held : muxObject xmux with
  | none =>
    -- the multiplexing of a new config is enabled
    apply iff_of_false
    · exact Option.some_ne_none _
    · rintro ⟨enabled, given⟩
      rw [muxObject_given enabled given] at held
      cases held
  | some value =>
    obtain ⟨enabled, rfl, some_field⟩ := muxObject_some held
    rw [Option.isSome_some, if_pos rfl, Option.getD_some, Value.toObject]
    constructor
    · intro again
      obtain ⟨-, same, -⟩ := muxObject_some again
      have keys : (muxFields xmux).map Prod.fst =
          (muxFields (readMux (ofFields (muxFields xmux)) {})).map Prod.fst := by
        rw [muxFields_keys, muxFields_keys]
      have fields := (ofFields_inj keys (muxFields_distinct xmux)).mp (Value.object.inj same)
      exact ⟨enabled, (muxFields_again_iff xmux).mp fields.symm⟩
    · rintro ⟨-, given⟩
      have fields := (muxFields_again_iff xmux).mpr given
      rw [muxObject, fields]
      simp [readMux, some_field]

lemma uplinkChunkSize_again_iff {object : Object} {text : String}
    (written : object.lookup "uplinkChunkSize" = uplinkChunkSize text)
    (no_old : object.lookup "xhttpUplinkChunkSize" = none) :
    uplinkChunkSize (readChunkSize object "0") = uplinkChunkSize text ↔
      text = "" ∨ text = "0" ∨ toInt text ≠ 0 := by
  by_cases none : text = "" ∨ text = "0"
  · have missing : uplinkChunkSize text = Option.none := by
      rcases none with rfl | rfl <;> rfl
    have read : readChunkSize object "0" = "0" := by
      simp [readChunkSize, readNumber, Object.contains, written, no_old, missing]
    apply iff_of_true
    · rw [read, missing]
      rfl
    · rw [← or_assoc]
      exact Or.inl none
  · rw [not_or] at none
    have int : IsInt (toInt text) := toInt_range text
    have written_range : uplinkChunkSize text =
        some (range (toInt text) (toInt text)) := by
      simp [uplinkChunkSize, orDefault, none]
    have read : readChunkSize object "0" = number (toInt text) := by
      simp only [readChunkSize, Object.contains, Object.value, written, written_range]
      simp [range, Value.toObject, toInt_double int]
    rw [read, written_range]
    by_cases zero : toInt text = 0
    · rw [zero, number]
      apply iff_of_false
      · intro same
        cases same
      · rintro (empty | is_zero | other)
        · exact none.1 empty
        · exact none.2 is_zero
        · exact other rfl
    · have number : number (toInt text) ≠ "0" := by
        intro same
        apply zero
        rw [← toInt_number _ int.1 int.2, same]
        decide
      apply iff_of_true _ (Or.inr (Or.inr zero))
      simp [uplinkChunkSize, orDefault, number_ne_empty, number, toInt_number _ int.1 int.2]

lemma paddingBytes_again (bytesMin bytesMax : String) :
    let read := readRange ((paddingBytes bytesMin bytesMax).getD .undefined) "" ""
    paddingBytes read.1 read.2 = paddingBytes bytesMin bytesMax := by
  intro read
  by_cases given : bytesMin ≠ "" ∨ bytesMax ≠ ""
  · let least := if bytesMin = "" then 1 else toInt bytesMin
    let most := if bytesMax = "" then 256 else toInt bytesMax
    let upper := if most < least then least else most
    have written : paddingBytes bytesMin bytesMax = some (range least upper) := by
      simp [paddingBytes, given, least, most, upper]
    have least_int : IsInt least := by
      simp only [least]
      split
      · exact ⟨by decide, by decide⟩
      · exact toInt_range bytesMin
    have most_int : IsInt most := by
      simp only [most]
      split
      · exact ⟨by decide, by decide⟩
      · exact toInt_range bytesMax
    have upper_int : IsInt upper := by
      simp only [upper]
      split
      · exact least_int
      · exact most_int
    have ordered : ¬upper < least := by
      simp only [upper]
      split <;> omega
    have bounds : read = (number least, number upper) := by
      simp only [read]
      rw [written, Option.getD_some, readRange_range _ _ least_int upper_int]
    rw [bounds, written]
    simp [paddingBytes, number_ne_empty, toInt_number _ least_int.1 least_int.2,
      toInt_number _ upper_int.1 upper_int.2, ordered]
  · have missing : paddingBytes bytesMin bytesMax = none := by
      simp [paddingBytes, given]
    have bounds : read = ("", "") := by
      simp only [read]
      rw [missing]
      rfl
    rw [bounds, missing]
    rfl

def xhttpKeys : List String :=
  ["headers", "host", "mode", "noGRPCHeader", "noSSEHeader", "path", "scMaxBufferedPosts",
    "scMaxEachPostBytes", "scMinPostsIntervalMs", "scStreamUpServerSecs", "seqKey", "seqPlacement",
    "sessionKey", "sessionPlacement", "uplinkChunkSize", "uplinkDataKey", "uplinkDataPlacement",
    "uplinkHTTPMethod", "xPaddingBytes", "xPaddingHeader", "xPaddingKey", "xPaddingMethod",
    "xPaddingObfsMode", "xPaddingPlacement", "xmux"]

lemma xhttpFields_keys (xhttp : Xhttp) : (xhttpFields xhttp).map Prod.fst = xhttpKeys := rfl

lemma xhttpFields_distinct (xhttp : Xhttp) : ((xhttpFields xhttp).map Prod.fst).Nodup := by
  rw [xhttpFields_keys]
  decide

lemma lookup_xhttp (xhttp : Xhttp) (key : String) :
    (ofFields (xhttpFields xhttp)).lookup key = ((xhttpFields xhttp).lookup key).join :=
  lookup_ofFields (xhttpFields_distinct xhttp) key

lemma text_read (text : String) : ((unlessEmpty text).getD .undefined).toString = text := by
  by_cases empty : text = ""
  · subst empty
    rfl
  · rw [unlessEmpty, if_neg empty]
    rfl

/-- The padding that is found: nothing but the mode if the padding is off. -/
lemma readPadding_written (xhttp : Xhttp) :
    readPadding (ofFields (xhttpFields xhttp)) {} =
      let pad := xhttp.xPadding
      let padded (text : String) : String := if pad.obfsMode then text else ""
      let bytes := readRange ((if pad.obfsMode then paddingBytes pad.bytesMin pad.bytesMax
        else none).getD .undefined) "" ""
      { bytesMin := bytes.1
        bytesMax := bytes.2
        obfsMode := pad.obfsMode
        key := padded (orDefault pad.key "x_padding")
        header := padded (orDefault pad.header "X-Padding")
        placement := placementUi (padded
          (normalizeXPaddingPlacement (orDefault pad.placement "Cookie")))
        method := methodUi (padded (normalizeXPaddingMethod (orDefault pad.method "Repeat-x"))) } := by
  have here : Object.contains (ofFields (xhttpFields xhttp)) "xPaddingObfsMode" = true := by
    rw [Object.contains, lookup_xhttp]
    rfl
  have text (key text : String) (written : ((xhttpFields xhttp).lookup key).join =
      if xhttp.xPadding.obfsMode then some (.string text) else none) :
      (Object.value (ofFields (xhttpFields xhttp)) key).toString =
        if xhttp.xPadding.obfsMode then text else "" := by
    rw [Object.value, lookup_xhttp, written]
    split <;> rfl
  have mode : boolOr (Object.value (ofFields (xhttpFields xhttp)) "xPaddingObfsMode") true =
      xhttp.xPadding.obfsMode := by
    rw [Object.value, lookup_xhttp]
    rfl
  have bytes : Object.value (ofFields (xhttpFields xhttp)) "xPaddingBytes" =
      (if xhttp.xPadding.obfsMode then paddingBytes xhttp.xPadding.bytesMin xhttp.xPadding.bytesMax
        else none).getD .undefined := by
    rw [Object.value, lookup_xhttp]
    rfl
  simp [readPadding, here, loadPaddingFromObject, bytes, mode,
    text "xPaddingKey" _ rfl, text "xPaddingHeader" _ rfl, text "xPaddingPlacement" _ rfl,
    text "xPaddingMethod" _ rfl]

lemma padding_again (xhttp : Xhttp) :
    let pad := xhttp.xPadding
    let read := readPadding (ofFields (xhttpFields xhttp)) {}
    read.obfsMode = pad.obfsMode ∧ (pad.obfsMode = true →
      paddingBytes read.bytesMin read.bytesMax = paddingBytes pad.bytesMin pad.bytesMax ∧
      orDefault read.header "X-Padding" = orDefault pad.header "X-Padding" ∧
      orDefault read.key "x_padding" = orDefault pad.key "x_padding" ∧
      normalizeXPaddingMethod (orDefault read.method "Repeat-x") =
        normalizeXPaddingMethod (orDefault pad.method "Repeat-x") ∧
      normalizeXPaddingPlacement (orDefault read.placement "Cookie") =
        normalizeXPaddingPlacement (orDefault pad.placement "Cookie")) := by
  rw [readPadding_written]
  constructor
  · rfl
  · intro padded
    simp only [padded, if_true]
    exact ⟨paddingBytes_again _ _, orDefault_given (orDefault_ne_empty (by decide)),
      orDefault_given (orDefault_ne_empty (by decide)), paddingMethod_again _,
      paddingPlacement_again _⟩

/-- What the settings of xhttp must say to be read back. Everything else is. -/
structure XhttpKept (xhttp : Xhttp) : Prop where
  headers : sameText xhttp.headersTemplate "HTTP" = true
  scMaxEachPostBytes : Given xhttp.scMaxEachPostBytesMin xhttp.scMaxEachPostBytesMax
  scMinPostsIntervalMs : Given xhttp.scMinPostsIntervalMsMin xhttp.scMinPostsIntervalMsMax
  scStreamUpServerSecs : Given xhttp.scStreamUpServerSecsMin xhttp.scStreamUpServerSecsMax
  seqPlacement : normalizeSessionSeqPlacement xhttp.seqPlacement ≠ ""
  sessionPlacement : normalizeSessionSeqPlacement xhttp.sessionPlacement ≠ ""
  uplinkChunkSize : xhttp.uplinkChunkSize = "" ∨ xhttp.uplinkChunkSize = "0" ∨
    QtText.toInt xhttp.uplinkChunkSize ≠ 0
  enabled : xhttp.xmux.enabled = true
  xmux : RangesGiven xhttp.xmux

lemma sessionSeq_again_iff (placement : String) :
    unlessEmpty (normalizeSessionSeqPlacement (sessionSeqUi (normalizeSessionSeqPlacement placement))) =
      unlessEmpty (normalizeSessionSeqPlacement placement) ↔
    normalizeSessionSeqPlacement placement ≠ "" := by
  by_cases empty : normalizeSessionSeqPlacement placement = ""
  · -- what is left out is read as a path
    have path : normalizeSessionSeqPlacement (sessionSeqUi "") = "path" := by decide
    rw [empty, path]
    apply iff_of_false
    · exact fun same => nomatch same
    · exact fun given => given rfl
  · rw [sessionSeqPlacement_again empty]
    exact iff_of_true rfl empty

section Xhttp

variable (xhttp : Xhttp)

variable {key : String}

lemma value_xhttp {held : Option Value} (written : ((xhttpFields xhttp).lookup key).join = held) :
    Object.value (ofFields (xhttpFields xhttp)) key = held.getD .undefined := by
  rw [Object.value, lookup_xhttp, written]

lemma optional_xhttp {text : String}
    (written : ((xhttpFields xhttp).lookup key).join = unlessEmpty text) :
    (Object.value (ofFields (xhttpFields xhttp)) key).toString = text := by
  rw [value_xhttp xhttp written, text_read]

lemma string_xhttp {text : String}
    (written : ((xhttpFields xhttp).lookup key).join = some (.string text)) :
    (Object.value (ofFields (xhttpFields xhttp)) key).toString = text := by
  rw [value_xhttp xhttp written]
  rfl

/-- Nothing is written under a key of an old version. -/
lemma textOrOld_xhttp {oldKey : String} (no_old : (xhttpFields xhttp).lookup oldKey = none) :
    textOrOld (ofFields (xhttpFields xhttp)) key oldKey =
      (Object.value (ofFields (xhttpFields xhttp)) key).toString := by
  have old : (Object.value (ofFields (xhttpFields xhttp)) oldKey).toString = "" := by
    rw [Object.value, lookup_xhttp, no_old]
    rfl
  rw [textOrOld, old, orDefault]
  split
  · exact Eq.symm ‹_›
  · rfl

lemma range_xhttp_iff {least most fallbackMin fallbackMax : String}
    (written : ((xhttpFields xhttp).lookup key).join = rangeIfAny least most fallbackMin fallbackMax)
    (some_default : Given fallbackMin fallbackMax) :
    rangeAgain fallbackMin fallbackMax fallbackMin fallbackMax
        (Object.value (ofFields (xhttpFields xhttp)) key) =
      rangeIfAny least most fallbackMin fallbackMax ↔ Given least most := by
  rw [value_xhttp xhttp written]
  exact rangeAgain_iff _ _ _ _ some_default

lemma headers_again_iff (host template : String) :
    (if sameText "HTTP" "HTTP" then some (Value.object [("Host", .string host)]) else none) =
      (if sameText template "HTTP" then some (.object [("Host", .string host)]) else none) ↔
    sameText template "HTTP" = true := by
  simp [sameText]

/-! The fields that are read back whatever the settings say. -/

lemma host_again :
    orDefault (Object.value (ofFields (xhttpFields xhttp)) "host").toString
      "www.googletagmanager.com" = orDefault xhttp.host "www.googletagmanager.com" := by
  have written : ((xhttpFields xhttp).lookup "host").join =
      some (.string (orDefault xhttp.host "www.googletagmanager.com")) := rfl
  rw [string_xhttp xhttp written, orDefault_given (orDefault_ne_empty (by decide))]

lemma xhttpMode_again :
    normalizeXhttpMode (readMode (Object.value (ofFields (xhttpFields xhttp)) "mode").toString) =
      normalizeXhttpMode xhttp.mode := by
  have written : ((xhttpFields xhttp).lookup "mode").join =
      some (.string (normalizeXhttpMode xhttp.mode)) := rfl
  rw [string_xhttp xhttp written, mode_again]

lemma flag_again {flag : Bool}
    (written : ((xhttpFields xhttp).lookup key).join = some (.bool flag)) :
    boolOr (Object.value (ofFields (xhttpFields xhttp)) key) true = flag := by
  rw [value_xhttp xhttp written]
  rfl

lemma bufferedPosts_again :
    longIfAny (readLong (ofFields (xhttpFields xhttp)) "scMaxBufferedPosts" "") =
      longIfAny xhttp.scMaxBufferedPosts := by
  apply longIfAny_again
  rw [lookup_xhttp]
  rfl

lemma uplinkData_again :
    normalizeUplinkDataPlacement (uplinkDataUi (textOrOld (ofFields (xhttpFields xhttp))
      "uplinkDataPlacement" "scUplinkDataPlacement")) =
      normalizeUplinkDataPlacement xhttp.uplinkDataPlacement := by
  have written : ((xhttpFields xhttp).lookup "uplinkDataPlacement").join =
      some (.string (normalizeUplinkDataPlacement xhttp.uplinkDataPlacement)) := rfl
  rw [textOrOld_xhttp xhttp rfl, string_xhttp xhttp written, uplinkDataPlacement_again]

lemma method_again :
    toUpper (orDefault (if Object.contains (ofFields (xhttpFields xhttp)) "uplinkHTTPMethod" then
      (Object.value (ofFields (xhttpFields xhttp)) "uplinkHTTPMethod").toString
      else (Object.value (ofFields (xhttpFields xhttp)) "method").toString) "POST") =
    toUpper (orDefault xhttp.uplinkMethod "POST") := by
  have written : ((xhttpFields xhttp).lookup "uplinkHTTPMethod").join =
      some (.string (toUpper (orDefault xhttp.uplinkMethod "POST"))) := rfl
  have present : Object.contains (ofFields (xhttpFields xhttp)) "uplinkHTTPMethod" = true := by
    rw [Object.contains, lookup_xhttp, written]
    rfl
  have given : toUpper (orDefault xhttp.uplinkMethod "POST") ≠ "" :=
    mt toUpper_eq_empty.mp (orDefault_ne_empty (by decide))
  rw [if_pos present, string_xhttp xhttp written, orDefault_given given, toUpper_toUpper]

lemma placement_again_iff {oldKey placement : String}
    (written : ((xhttpFields xhttp).lookup key).join =
      unlessEmpty (normalizeSessionSeqPlacement placement))
    (no_old : (xhttpFields xhttp).lookup oldKey = none) :
    unlessEmpty (normalizeSessionSeqPlacement (sessionSeqUi
      (textOrOld (ofFields (xhttpFields xhttp)) key oldKey))) =
        unlessEmpty (normalizeSessionSeqPlacement placement) ↔
      normalizeSessionSeqPlacement placement ≠ "" := by
  rw [textOrOld_xhttp xhttp no_old, optional_xhttp xhttp written]
  exact sessionSeq_again_iff placement

lemma xhttpFields_again_iff :
    xhttpFields (readXhttp (ofFields (xhttpFields xhttp)) {}) = xhttpFields xhttp ↔
      XhttpKept xhttp := by
  let obj := ofFields (xhttpFields xhttp)
  have grpc : boolOr (Object.value obj "noGRPCHeader") true = xhttp.disableGrpc := flag_again xhttp rfl
  have sse : boolOr (Object.value obj "noSSEHeader") true = xhttp.disableSse := flag_again xhttp rfl
  have path : (Object.value obj "path").toString = xhttp.path := optional_xhttp xhttp rfl
  have seqKey : (Object.value obj "seqKey").toString = xhttp.seqKey := optional_xhttp xhttp rfl
  have sessionKey : (Object.value obj "sessionKey").toString = xhttp.sessionKey :=
    optional_xhttp xhttp rfl
  have dataKey : (Object.value obj "uplinkDataKey").toString = xhttp.uplinkDataKey :=
    optional_xhttp xhttp rfl
  have eachPost : rangeAgain "1" "100" "1" "100" (Object.value obj "scMaxEachPostBytes") =
      rangeIfAny xhttp.scMaxEachPostBytesMin xhttp.scMaxEachPostBytesMax "1" "100" ↔ _ :=
    range_xhttp_iff xhttp rfl (Or.inl (by decide))
  have interval : rangeAgain "100" "800" "100" "800" (Object.value obj "scMinPostsIntervalMs") =
      rangeIfAny xhttp.scMinPostsIntervalMsMin xhttp.scMinPostsIntervalMsMax "100" "800" ↔ _ :=
    range_xhttp_iff xhttp rfl (Or.inl (by decide))
  have streamUp : rangeAgain "1" "100" "1" "100" (Object.value obj "scStreamUpServerSecs") =
      rangeIfAny xhttp.scStreamUpServerSecsMin xhttp.scStreamUpServerSecsMax "1" "100" ↔ _ :=
    range_xhttp_iff xhttp rfl (Or.inl (by decide))
  have seq : unlessEmpty (normalizeSessionSeqPlacement (sessionSeqUi
      (textOrOld obj "seqPlacement" "scSeqPlacement"))) =
      unlessEmpty (normalizeSessionSeqPlacement xhttp.seqPlacement) ↔ _ :=
    placement_again_iff xhttp rfl rfl
  have session : unlessEmpty (normalizeSessionSeqPlacement (sessionSeqUi
      (textOrOld obj "sessionPlacement" "scSessionPlacement"))) =
      unlessEmpty (normalizeSessionSeqPlacement xhttp.sessionPlacement) ↔ _ :=
    placement_again_iff xhttp rfl rfl
  have chunk := uplinkChunkSize_again_iff (lookup_xhttp xhttp "uplinkChunkSize")
    (lookup_xhttp xhttp "xhttpUplinkChunkSize")
  have mux := muxObject_again_iff (lookup_xhttp xhttp "xmux")
  obtain ⟨obfs, padding⟩ := padding_again xhttp
  have fields : xhttpFields (readXhttp obj {}) = xhttpFields xhttp ↔ sameText xhttp.headersTemplate "HTTP" = true ∧
      Given xhttp.scMaxEachPostBytesMin xhttp.scMaxEachPostBytesMax ∧
      Given xhttp.scMinPostsIntervalMsMin xhttp.scMinPostsIntervalMsMax ∧
      Given xhttp.scStreamUpServerSecsMin xhttp.scStreamUpServerSecsMax ∧
      normalizeSessionSeqPlacement xhttp.seqPlacement ≠ "" ∧
      normalizeSessionSeqPlacement xhttp.sessionPlacement ≠ "" ∧
      (xhttp.uplinkChunkSize = "" ∨ xhttp.uplinkChunkSize = "0" ∨
        toInt xhttp.uplinkChunkSize ≠ 0) ∧
      xhttp.xmux.enabled = true ∧ RangesGiven xhttp.xmux := by
    simp only [rangeAgain] at eachPost interval streamUp
    conv =>
      lhs
      rhs
      rw [xhttpFields]
    rw [xhttpFields]
    simp only [readXhttp, List.cons.injEq, Prod.mk.injEq, ite_self, obj, host_again,
      xhttpMode_again, bufferedPosts_again, uplinkData_again, method_again, headers_again_iff, grpc, sse,
      path, seqKey, sessionKey, dataKey, eachPost, interval, streamUp, seq, session, chunk, mux, obfs]
    cases on : xhttp.xPadding.obfsMode with
    | false => simp
    | true =>
      obtain ⟨bytes, header, key, method, placement⟩ := padding on
      simp [bytes, header, key, method, placement]
  rw [fields]
  constructor
  · rintro ⟨headers, eachPost, interval, streamUp, seq, session, chunk, enabled, xmux⟩
    exact ⟨headers, eachPost, interval, streamUp, seq, session, chunk, enabled, xmux⟩
  · rintro ⟨headers, eachPost, interval, streamUp, seq, session, chunk, enabled, xmux⟩
    exact ⟨headers, eachPost, interval, streamUp, seq, session, chunk, enabled, xmux⟩

end Xhttp

end AbstractumVpn.XrayInstaller
