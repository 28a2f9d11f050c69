import AbstractumVpn.XrayReconfiguration
import AbstractumVpn.XrayXhttp

/-!
Settings that are written into the config of a server and read back from it by a
scan, which gives the same stream settings again, except for the values that are
left out of the file and that a new config has otherwise.
-/

namespace AbstractumVpn.XrayInstaller

open Json XrayServerConfig XrayConfigurator

lemma kcpNumber_again {mkcp : Mkcp} {key text default : String}
    (written : (kcpSettings mkcp).lookup key = some (.double (QtText.toInt (orDefault text default)))) :
    QtText.toInt (orDefault (readNumber (kcpSettings mkcp) key "") default) =
      QtText.toInt (orDefault text default) := by
  have number : readNumber (kcpSettings mkcp) key "" =
      QtText.number (QtText.toInt (orDefault text default)) := by
    simp only [readNumber, Object.contains, Object.value, written, Option.isSome_some, if_true,
      Option.getD_some]
    rw [toInt_double (QtText.toInt_range _)]
  rw [number, number_again (QtText.toInt_range _)]

lemma kcpSettings_again (mkcp : Mkcp) :
    kcpSettings (readMkcp (kcpSettings mkcp) {}) = kcpSettings mkcp := by
  have congestion : boolOr (Object.value (kcpSettings mkcp) "congestion") true = mkcp.congestion := rfl
  conv =>
    rhs
    rw [kcpSettings]
  rw [kcpSettings]
  simp only [readMkcp, congestion]
  rw [kcpNumber_again rfl, kcpNumber_again rfl, kcpNumber_again rfl, kcpNumber_again rfl,
    kcpNumber_again rfl]

lemma network_again (transport : String) :
    network (readTransport (network transport)) = network transport := by
  unfold network
  split
  · decide
  · split <;> decide

lemma xhttp_again_iff (transport : String) :
    readTransport (network transport) = "xhttp" ↔ transport = "xhttp" := by
  unfold network
  split
  · simp_all [readTransport]
  · split <;> simp_all [readTransport]

lemma mkcp_again_iff (transport : String) :
    readTransport (network transport) = "mkcp" ↔ transport = "mkcp" := by
  unfold network
  split
  · simp_all [readTransport]
  · split <;> simp_all [readTransport]

lemma fingerprint_again_iff (fingerprint : String) :
    orDefault (normalizeXrayFingerprint (orDefault fingerprint defaultFingerprint)) defaultFingerprint =
      orDefault fingerprint defaultFingerprint ↔
    containsText fingerprint "Mozilla/5.0" = false := by
  have short : containsText defaultFingerprint "Mozilla/5.0" = false := containsText_short (by decide)
  by_cases empty : fingerprint = ""
  · have none : containsText "" "Mozilla/5.0" = false := containsText_short (by decide)
    subst empty
    simp [orDefault, normalizeXrayFingerprint, none]
  · rw [orDefault_given empty, normalizeXrayFingerprint]
    cases old : containsText fingerprint "Mozilla/5.0" with
    | false => simp [empty, orDefault]
    | true =>
      apply iff_of_false
      · intro same
        have chrome : defaultFingerprint = fingerprint := by
          simpa [orDefault] using same
        rw [← chrome, short] at old
        cases old
      · intro never
        cases never

def foundName (srv : Config) : String :=
  if srv.security = "reality" then inboundName srv else orDefault srv.sni defaultSni

structure Found (srv found : Config) : Prop where
  transport : found.transport = readTransport (network srv.transport)
  security : found.security = srv.security
  sni : found.sni = foundName srv
  fingerprint : found.fingerprint =
    normalizeXrayFingerprint (orDefault srv.fingerprint defaultFingerprint)
  xhttp : srv.transport = "xhttp" → found.xhttp = readXhttp (ofFields (xhttpFields srv.xhttp)) {}
  mkcp : srv.transport = "mkcp" → found.mkcp = readMkcp (kcpSettings srv.mkcp) {}

section Merged

variable (srv : Config) (existing : Object)

lemma merged_network :
    Object.value (mergeStreamSettingsForServerInbound srv existing) "network" =
      .string (network srv.transport) := by
  rw [value_merged _ _ _ (by decide), value_buildStreamSettings]
  rfl

lemma merged_security :
    Object.value (mergeStreamSettingsForServerInbound srv existing) "security" =
      .string srv.security := by
  rw [value_merged _ _ _ (by decide), stream_security]

lemma merged_xhttp :
    Object.value (mergeStreamSettingsForServerInbound srv existing) "xhttpSettings" =
      if srv.transport = "xhttp" then .object (ofFields (xhttpFields srv.xhttp)) else .undefined := by
  rw [value_merged _ _ _ (by decide), stream_xhttp]

lemma merged_kcp :
    Object.value (mergeStreamSettingsForServerInbound srv existing) "kcpSettings" =
      if srv.transport = "mkcp" then .object (kcpSettings srv.mkcp) else .undefined := by
  rw [value_merged _ _ _ (by decide), stream_kcp]

end Merged

lemma mergedReality_named (srv : Config) (oldRs : Object) :
    Object.contains (mergedReality srv oldRs) "serverNames" = true := by
  apply contains_of_value
  rw [mergedReality_names]
  exact fun never => nomatch never

lemma readReality_merged (srv start : Config) (oldRs : Object) :
    readReality (mergedReality srv oldRs) start =
      { start with
        sni := inboundName srv
        site := inboundName srv
        fingerprint := normalizeXrayFingerprint (orDefault srv.fingerprint defaultFingerprint) } := by
  rw [readReality, mergedReality_named, if_pos rfl, mergedReality_names, mergedReality_fingerprint]
  rfl

section Inbound

variable {inbound : Object} {srv : Config} {existing : Object}
  (stream : streamOf inbound = mergeStreamSettingsForServerInbound srv existing)

include stream

def startOf (inbound : Object) (srv : Config) : Config :=
  { port := readNumber inbound "port" "", security := srv.security,
    transport := readTransport (network srv.transport) }

def finished (inbound : Object) (srv named : Config) : Config :=
  { named with
    flow := readFlow inbound ""
    xhttp := if srv.transport = "xhttp" then readXhttp (ofFields (xhttpFields srv.xhttp)) {} else {}
    mkcp := if srv.transport = "mkcp" then readMkcp (kcpSettings srv.mkcp) {} else {} }

lemma merged_sections :
    (if readTransport (network srv.transport) = "xhttp" then
      readXhttp ((streamOf inbound).value "xhttpSettings").toObject {} else ({} : Xhttp)) =
      (if srv.transport = "xhttp" then readXhttp (ofFields (xhttpFields srv.xhttp)) {} else {}) ∧
    (if readTransport (network srv.transport) = "mkcp" then
      readMkcp ((streamOf inbound).value "kcpSettings").toObject {} else ({} : Mkcp)) =
      if srv.transport = "mkcp" then readMkcp (kcpSettings srv.mkcp) {} else {} := by
  simp only [xhttp_again_iff, mkcp_again_iff, stream, merged_xhttp, merged_kcp]
  constructor
  · split <;> rfl
  · split <;> rfl

lemma merged_transport :
    stringOr ((streamOf inbound).value "network") "tcp" = network srv.transport := by
  rw [stream, merged_network]
  rfl

lemma readInbound_reality (reality : srv.security = "reality") :
    readInbound inbound {} = finished inbound srv
      (readReality (mergedReality srv (existing.value "realitySettings").toObject)
        (startOf inbound srv)) := by
  obtain ⟨xhttp, mkcp⟩ := merged_sections stream
  have network := merged_transport stream
  have security : stringOr ((streamOf inbound).value "security") "reality" = "reality" := by
    rw [stream, merged_security, reality]
    rfl
  have rs : ((streamOf inbound).value "realitySettings").toObject =
      mergedReality srv (existing.value "realitySettings").toObject := by
    rw [stream, merged_reality _ _ reality]
  simp only [readInbound, network, security, rs, readReality_merged, finished, startOf, reality]
  simp [xhttp, mkcp]

lemma readInbound_tls (tls : srv.security = "tls") :
    readInbound inbound {} = finished inbound srv (readTls (tlsSettings srv) (startOf inbound srv)) := by
  obtain ⟨xhttp, mkcp⟩ := merged_sections stream
  have network := merged_transport stream
  have security : stringOr ((streamOf inbound).value "security") "reality" = "tls" := by
    rw [stream, merged_security, tls]
    rfl
  have settings : ((streamOf inbound).value "tlsSettings").toObject = tlsSettings srv := by
    rw [stream, value_merged _ _ _ (by decide), stream_tls, if_pos tls]
  simp [readInbound, network, security, settings, readTls, finished,
    startOf, tls, xhttp, mkcp]

lemma found_written (secured : srv.security = "tls" ∨ srv.security = "reality") :
    Found srv (readInbound inbound {}) := by
  rcases secured with tls | reality
  · rw [readInbound_tls stream tls]
    constructor
    · rfl
    · rfl
    · simp only [readTls, tls_name, foundName, tls]
      rfl
    · simp only [readTls, tls_fingerprint]
      rfl
    · exact fun xhttp => if_pos xhttp
    · exact fun mkcp => if_pos mkcp
  · rw [readInbound_reality stream reality, readReality_merged]
    constructor
    · rfl
    · rfl
    · simp [finished, foundName, reality]
    · rfl
    · exact fun xhttp => if_pos xhttp
    · exact fun mkcp => if_pos mkcp

end Inbound

def realityNames (stream : Object) : List Value :=
  let rs := (stream.value "realitySettings").toObject
  if rs.contains "serverNames" then (rs.value "serverNames").toArray
  else if rs.contains "serverName" then [rs.value "serverName"]
  else []

structure SameStream (stream again : Object) : Prop where
  network : stream.value "network" = again.value "network"
  security : stream.value "security" = again.value "security"
  realityNames : realityNames stream = realityNames again
  realityFingerprint : (stream.value "realitySettings").toObject.value "fingerprint" =
    (again.value "realitySettings").toObject.value "fingerprint"
  tlsName : (stream.value "tlsSettings").toObject.value "serverName" =
    (again.value "tlsSettings").toObject.value "serverName"
  tlsFingerprint : (stream.value "tlsSettings").toObject.value "fingerprint" =
    (again.value "tlsSettings").toObject.value "fingerprint"
  xhttp : stream.value "xhttpSettings" = again.value "xhttpSettings"
  kcp : stream.value "kcpSettings" = again.value "kcpSettings"

structure Kept (srv : Config) : Prop where
  fingerprint : containsText srv.fingerprint "Mozilla/5.0" = false
  xhttp : srv.transport = "xhttp" → XhttpKept srv.xhttp

section Again

variable {srv found : Config} (existing : Object) (scanned : Found srv found)

include scanned

lemma xhttp_section_iff :
    Object.value (mergeStreamSettingsForServerInbound srv existing) "xhttpSettings" =
      Object.value (buildStreamSettings found) "xhttpSettings" ↔
    (srv.transport = "xhttp" → XhttpKept srv.xhttp) := by
  rw [merged_xhttp, stream_xhttp, scanned.transport]
  simp only [xhttp_again_iff]
  by_cases xhttp : srv.transport = "xhttp"
  · have keys : (xhttpFields srv.xhttp).map Prod.fst = (xhttpFields found.xhttp).map Prod.fst := by
      rw [xhttpFields_keys, xhttpFields_keys]
    simp only [xhttp, if_true, true_imp_iff, Value.object.injEq]
    rw [ofFields_inj keys (xhttpFields_distinct _), scanned.xhttp xhttp, eq_comm,
      xhttpFields_again_iff]
  · simp [xhttp]

lemma kcp_section :
    Object.value (mergeStreamSettingsForServerInbound srv existing) "kcpSettings" =
      Object.value (buildStreamSettings found) "kcpSettings" := by
  rw [merged_kcp, stream_kcp, scanned.transport]
  simp only [mkcp_again_iff]
  split
  · rename_i mkcp
    rw [scanned.mkcp mkcp, kcpSettings_again]
  · rfl

lemma fingerprint_found_iff :
    Value.string (orDefault srv.fingerprint defaultFingerprint) =
      .string (orDefault found.fingerprint defaultFingerprint) ↔
    containsText srv.fingerprint "Mozilla/5.0" = false := by
  rw [scanned.fingerprint, Value.string.injEq, eq_comm]
  exact fingerprint_again_iff srv.fingerprint

lemma name_found : orDefault found.sni defaultSni = foundName srv := by
  rw [scanned.sni]
  apply orDefault_given
  unfold foundName
  split
  · exact orDefault_ne_empty (orDefault_ne_empty (by decide))
  · exact orDefault_ne_empty (by decide)

lemma tls_sections (tls : srv.security = "tls") :
    (Object.value (mergeStreamSettingsForServerInbound srv existing) "tlsSettings").toObject =
      tlsSettings srv ∧
    (Object.value (buildStreamSettings found) "tlsSettings").toObject = tlsSettings found ∧
    (Object.value (mergeStreamSettingsForServerInbound srv existing) "realitySettings").toObject = [] ∧
    (Object.value (buildStreamSettings found) "realitySettings").toObject = [] := by
  have other : srv.security ≠ "reality" := by
    rw [tls]
    decide
  refine ⟨?_, ?_, merged_no_reality srv existing other, ?_⟩
  · rw [value_merged _ _ _ (by decide), stream_tls, if_pos tls]
  · rw [stream_tls, scanned.security, if_pos tls]
  · rw [stream_reality, scanned.security, if_neg other]

lemma reality_sections (reality : srv.security = "reality") :
    (Object.value (mergeStreamSettingsForServerInbound srv existing) "realitySettings").toObject =
      mergedReality srv (existing.value "realitySettings").toObject ∧
    (Object.value (buildStreamSettings found) "realitySettings").toObject = realitySettings found ∧
    (Object.value (mergeStreamSettingsForServerInbound srv existing) "tlsSettings").toObject = [] ∧
    (Object.value (buildStreamSettings found) "tlsSettings").toObject = [] := by
  have other : srv.security ≠ "tls" := by
    rw [reality]
    decide
  refine ⟨merged_reality srv existing reality, ?_, ?_, ?_⟩
  · rw [stream_reality, scanned.security, if_pos reality]
  · rw [value_merged _ _ _ (by decide), stream_tls, if_neg other]
  · rw [stream_tls, scanned.security, if_neg other]

omit scanned in
lemma merged_names (reality : srv.security = "reality") :
    realityNames (mergeStreamSettingsForServerInbound srv existing) = [.string (inboundName srv)] := by
  have names : Object.contains (mergedReality srv (existing.value "realitySettings").toObject)
      "serverNames" = true := mergedReality_named _ _
  rw [realityNames, merged_reality _ _ reality, names, if_pos rfl, mergedReality_names]
  rfl

lemma found_names (reality : srv.security = "reality") :
    realityNames (buildStreamSettings found) = [.string (inboundName srv)] := by
  have again : (Object.value (buildStreamSettings found) "realitySettings").toObject =
      realitySettings found := by
    rw [stream_reality, scanned.security, if_pos reality]
  have name : orDefault found.sni defaultSni = inboundName srv := by
    rw [name_found scanned, foundName, if_pos reality]
  rw [realityNames, again, ← name]
  rfl

lemma same_stream_iff (secured : srv.security = "tls" ∨ srv.security = "reality") :
    SameStream (mergeStreamSettingsForServerInbound srv existing) (buildStreamSettings found) ↔
      Kept srv := by
  constructor
  · intro same
    constructor
    · rw [← fingerprint_found_iff scanned]
      rcases secured with tls | reality
      · obtain ⟨merged, again, -, -⟩ := tls_sections existing scanned tls
        have fingerprint := same.tlsFingerprint
        rwa [merged, again, tls_fingerprint, tls_fingerprint] at fingerprint
      · obtain ⟨merged, again, -, -⟩ := reality_sections existing scanned reality
        have fingerprint := same.realityFingerprint
        rwa [merged, again, mergedReality_fingerprint] at fingerprint
    · exact (xhttp_section_iff existing scanned).mp same.xhttp
  · intro kept
    have fingerprint := (fingerprint_found_iff scanned).mpr kept.fingerprint
    have network : Object.value (mergeStreamSettingsForServerInbound srv existing) "network" =
        Object.value (buildStreamSettings found) "network" := by
      rw [merged_network, stream_network, scanned.transport, network_again]
    have security : Object.value (mergeStreamSettingsForServerInbound srv existing) "security" =
        Object.value (buildStreamSettings found) "security" := by
      rw [merged_security, stream_security, scanned.security]
    have xhttp := (xhttp_section_iff existing scanned).mpr kept.xhttp
    have kcp := kcp_section existing scanned
    rcases secured with tls | reality
    · obtain ⟨merged, again, no_reality, none_again⟩ := tls_sections existing scanned tls
      have name : foundName srv = orDefault srv.sni defaultSni := if_neg (by rw [tls]; decide)
      refine ⟨network, security, ?_, ?_, ?_, ?_, xhttp, kcp⟩
      · rw [realityNames, realityNames, no_reality, none_again]
      · rw [no_reality, none_again]
      · rw [merged, again, tls_name, tls_name, name_found scanned, name]
      · rw [merged, again, tls_fingerprint, tls_fingerprint, fingerprint]
    · obtain ⟨merged, again, no_tls, none_again⟩ := reality_sections existing scanned reality
      refine ⟨network, security, ?_, ?_, ?_, ?_, xhttp, kcp⟩
      · rw [merged_names existing reality, found_names scanned reality]
      · rw [merged, again, mergedReality_fingerprint, fingerprint]
        rfl
      · rw [no_tls, none_again]
      · rw [no_tls, none_again]

end Again

lemma scan_reads {serverConfig stream : Object}
    (written : (firstInbound serverConfig).value "streamSettings" = .object stream) :
    extractConfigFromContainer true (.object serverConfig) {} =
      .ok (readInbound (firstInbound serverConfig) {}) := by
  have has_stream : Object.contains (firstInbound serverConfig) "streamSettings" = true :=
    contains_of_value (by rw [written]; exact fun never => nomatch never)
  have some_inbound : (serverConfig.value "inbounds").toArray ≠ [] := by
    intro none
    rw [firstInbound, none] at written
    cases written
  have has_inbounds : Object.contains serverConfig "inbounds" = true := by
    apply contains_of_value
    intro none
    apply some_inbound
    rw [none]
    rfl
  simp [extractConfigFromContainer, has_inbounds, some_inbound, has_stream]

/-- A scan of a server with these stream settings succeeds, and what it finds gives the same stream
settings again if and only if the settings are ones that are kept. -/
theorem scanned_stream_iff (srv : Config) (existing serverConfig : Object)
    (secured : srv.security = "tls" ∨ srv.security = "reality")
    (written : (firstInbound serverConfig).value "streamSettings" =
      .object (mergeStreamSettingsForServerInbound srv existing)) :
    ∃ found, extractConfigFromContainer true (.object serverConfig) {} = .ok found ∧
      (SameStream (mergeStreamSettingsForServerInbound srv existing) (buildStreamSettings found) ↔
        Kept srv) := by
  have stream : streamOf (firstInbound serverConfig) =
      mergeStreamSettingsForServerInbound srv existing := by
    rw [streamOf, written]
    rfl
  exact ⟨_, scan_reads written, same_stream_iff existing (found_written stream secured) secured⟩

/-! A server with xhttp over TLS. -/

def tlsSettingsOf (xhttp : Xhttp) : Config := { security := "tls", transport := "xhttp", xhttp := xhttp }

def tlsServer (srv : Config) : Object :=
  [("inbounds", .array [.object
    [("streamSettings", .object (mergeStreamSettingsForServerInbound srv []))]])]

def givenXhttp : Xhttp where
  mode := "Packet-up"
  host := "cdn.example.net"
  path := "/upload"
  uplinkMethod := "PUT"
  disableGrpc := false
  sessionPlacement := "Header"
  sessionKey := "X-Session"
  seqPlacement := "Query"
  seqKey := "seq"
  uplinkChunkSize := "4096"
  scMaxEachPostBytesMin := "1000"
  xPadding := { bytesMin := "100", bytesMax := "900", key := "pad", placement := "Header" }
  xmux := { maxConcurrencyMin := "4", maxConcurrencyMax := "16", hKeepAlivePeriod := "45" }

theorem given_xhttp_kept :
    let srv := { tlsSettingsOf givenXhttp with fingerprint := "firefox" }
    ∃ found, extractConfigFromContainer true (.object (tlsServer srv)) {} = .ok found ∧
      SameStream (mergeStreamSettingsForServerInbound srv []) (buildStreamSettings found) := by
  intro srv
  obtain ⟨found, scanned, same⟩ :=
    scanned_stream_iff srv [] (tlsServer srv) (Or.inl rfl) rfl
  have zero : Given "0" "0" := Or.inl (by decide)
  have kept : Kept srv := by
    constructor
    · exact containsText_short (by decide)
    · intro _
      exact ⟨by decide, Or.inl (by decide), Or.inl (by decide), Or.inl (by decide), by decide,
        by decide, Or.inr (Or.inr (by decide)), rfl, ⟨Or.inl (by decide), zero, zero, zero, zero⟩⟩
  exact ⟨found, scanned, same.mpr kept⟩

/-- Without the template of headers, a scan finds the one of a new config. -/
theorem no_headers_lost :
    let srv := tlsSettingsOf { headersTemplate := "None" }
    ∃ found, extractConfigFromContainer true (.object (tlsServer srv)) {} = .ok found ∧
      ¬SameStream (mergeStreamSettingsForServerInbound srv []) (buildStreamSettings found) := by
  intro srv
  have written : (firstInbound (tlsServer srv)).value "streamSettings" =
      .object (mergeStreamSettingsForServerInbound srv []) := rfl
  have stream : streamOf (firstInbound (tlsServer srv)) =
      mergeStreamSettingsForServerInbound srv [] := rfl
  have found : Found srv (readInbound (firstInbound (tlsServer srv)) {}) :=
    found_written stream (Or.inl rfl)
  refine ⟨_, scan_reads written, ?_⟩
  intro same
  have kept := (same_stream_iff [] found (Or.inl rfl)).mp same
  exact absurd (kept.xhttp rfl).headers (by decide)

end AbstractumVpn.XrayInstaller
