import AbstractumVpn.XrayConfigurator

/-!
What applying Xray settings does to a server: whether the client matches the
inbound of the server afterwards, and what a run of such calls keeps of the
server's keys and clients.
-/

namespace AbstractumVpn.XrayConfigurator

open ImportController (put)
open Json XrayServerConfig

/-! ## Stream settings on both sides -/

section

variable (srv : Config)

lemma streamFields_distinct : ((streamFields srv).map Prod.fst).Nodup := by
  change List.Nodup ["kcpSettings", "network", "realitySettings", "security", "tlsSettings",
    "xhttpSettings"]
  decide

lemma value_buildStreamSettings (key : String) : Object.value (buildStreamSettings srv) key =
      (((streamFields srv).lookup key).join).getD .undefined :=
  value_ofFields (streamFields_distinct srv) key

lemma stream_security :
    Object.value (buildStreamSettings srv) "security" = .string srv.security := by
  rw [value_buildStreamSettings]
  rfl

lemma stream_reality : (Object.value (buildStreamSettings srv) "realitySettings").toObject =
      if srv.security = "reality" then realitySettings srv else [] := by
  rw [value_buildStreamSettings]
  by_cases reality : srv.security = "reality"
  · simp [streamFields, reality, Value.toObject, List.lookup_cons]
  · simp [streamFields, reality, Value.toObject, List.lookup_cons]

lemma stream_network :
    Object.value (buildStreamSettings srv) "network" = .string (network srv.transport) := by
  rw [value_buildStreamSettings]
  rfl

lemma stream_tls : (Object.value (buildStreamSettings srv) "tlsSettings").toObject =
      if srv.security = "tls" then tlsSettings srv else [] := by
  rw [value_buildStreamSettings]
  by_cases tls : srv.security = "tls"
  · simp [streamFields, tls, Value.toObject, List.lookup_cons]
  · simp [streamFields, tls, Value.toObject, List.lookup_cons]

lemma stream_xhttp : Object.value (buildStreamSettings srv) "xhttpSettings" =
      if srv.transport = "xhttp" then .object (ofFields (xhttpFields srv.xhttp)) else .undefined := by
  rw [value_buildStreamSettings]
  by_cases xhttp : srv.transport = "xhttp"
  · simp [streamFields, xhttp, List.lookup_cons]
  · simp [streamFields, xhttp, List.lookup_cons]

lemma stream_kcp : Object.value (buildStreamSettings srv) "kcpSettings" =
      if srv.transport = "mkcp" then .object (kcpSettings srv.mkcp) else .undefined := by
  rw [value_buildStreamSettings]
  by_cases mkcp : srv.transport = "mkcp"
  · simp [streamFields, mkcp]
  · simp [streamFields, mkcp]

lemma value_tls (key : String) :
    Object.value (tlsSettings srv) key = (((tlsFields srv).lookup key).join).getD .undefined := by
  have distinct : ((tlsFields srv).map Prod.fst).Nodup := by
    change ["alpn", "fingerprint", "serverName"].Nodup
    decide
  exact value_ofFields distinct key

lemma tls_name :
    Object.value (tlsSettings srv) "serverName" = .string (orDefault srv.sni defaultSni) := by
  rw [value_tls]
  rfl

lemma tls_fingerprint : Object.value (tlsSettings srv) "fingerprint" =
      .string (orDefault srv.fingerprint defaultFingerprint) := by
  rw [value_tls]
  rfl

/-- The server and the client change nothing but the reality settings. -/
lemma value_merged (existing : Object) (key : String) (no_reality : key ≠ "realitySettings") :
    Object.value (mergeStreamSettingsForServerInbound srv existing) key =
      Object.value (buildStreamSettings srv) key := by
  unfold mergeStreamSettingsForServerInbound
  split
  · rfl
  · exact value_put_other _ _ _ _ no_reality

lemma value_clientStream (publicKey shortId key : String) (no_reality : key ≠ "realitySettings") :
    Object.value (clientStream srv publicKey shortId) key =
      Object.value (buildStreamSettings srv) key := by
  unfold clientStream
  split
  · exact value_put_other _ _ _ _ no_reality
  · rfl

lemma merged_reality (existing : Object) (reality : srv.security = "reality") :
    (Object.value (mergeStreamSettingsForServerInbound srv existing) "realitySettings").toObject =
      mergedReality srv (existing.value "realitySettings").toObject := by
  rw [mergeStreamSettingsForServerInbound, if_neg (not_not.mpr reality), value_put_self,
    Value.toObject]

lemma merged_no_reality (existing : Object) (other : srv.security ≠ "reality") :
    (Object.value (mergeStreamSettingsForServerInbound srv existing) "realitySettings").toObject =
      [] := by
  rw [mergeStreamSettingsForServerInbound, if_pos other, stream_reality, if_neg other]

lemma value_withDest (rs : Object) (key : String) (no_dest : key ≠ "dest") :
    Object.value (withDest srv rs) key = rs.value key := by
  unfold withDest
  split
  · rfl
  · exact value_put_other _ _ _ _ no_dest

lemma mergedReality_names (oldRs : Object) :
    Object.value (mergedReality srv oldRs) "serverNames" = .array [.string (inboundName srv)] := by
  simp only [mergedReality]
  rw [value_withDest _ _ _ (by decide), value_put_self]

lemma mergedReality_fingerprint (oldRs : Object) :
    Object.value (mergedReality srv oldRs) "fingerprint" =
      .string (orDefault srv.fingerprint defaultFingerprint) := by
  simp only [mergedReality]
  rw [value_withDest _ _ _ (by decide), value_put_other _ _ _ _ (by decide), value_put_self]
  rfl

/-- What else the server keeps in its reality settings stays. -/
lemma mergedReality_other (oldRs : Object) (key : String)
    (no_fingerprint : key ≠ "fingerprint") (no_names : key ≠ "serverNames") (no_dest : key ≠ "dest") :
    Object.value (mergedReality srv oldRs) key =
      Object.value (if oldRs = [] then realitySettings srv else oldRs) key := by
  simp only [mergedReality]
  rw [value_withDest _ _ _ no_dest, value_put_other _ _ _ _ no_names,
    value_put_other _ _ _ _ no_fingerprint]

lemma clientStream_name (publicKey shortId : String) (reality : srv.security = "reality") :
    (Object.value (clientStream srv publicKey shortId) "realitySettings").toObject.value
      "serverName" = .string (orDefault srv.sni defaultSni) := by
  rw [clientStream, if_pos reality, value_put_self, Value.toObject,
    value_put_other _ _ _ _ (by decide), value_put_other _ _ _ _ (by decide),
    value_put_other _ _ _ _ (by decide), stream_reality, if_pos reality]
  rfl

end

/-! ## Clients of the inbound -/

def idOf (client : Value) : Value := client.toObject.value "id"

lemma id_withFlow (flow : String) (client : Object) :
    Object.value (withFlow flow client) "id" = client.value "id" := by
  unfold withFlow
  split
  · rw [Object.value, Object.remove, AssocList.lookup_filter, if_neg (by decide), Object.value]
  · exact value_put_other _ _ _ _ (by decide)

lemma flow_withFlow (flow : String) (client : Object) :
    Object.value (withFlow flow client) "flow" = (unlessEmpty flow).getD .undefined := by
  unfold withFlow unlessEmpty
  split
  · rw [Object.value, Object.remove, AssocList.lookup_filter, if_pos rfl]
  · exact value_put_self _ _ _

section Clients

variable {srv : Config} {appendNewClient : Bool} {newId clientId : String}
  {clients updated : List Value}

/-- The ids that are there stay, in their places. -/
lemma updateClients_ids
    (ok : updateClients srv appendNewClient newId clients = .ok (updated, clientId)) :
    clients.map idOf <+: updated.map idOf := by
  unfold updateClients at ok
  split at ok
  · cases ok
    rw [List.map_append]
    exact List.prefix_append _ _
  · simp only at ok
    split at ok
    · cases ok
    · cases ok
      have same : ∀ client ∈ clients,
          idOf client = (idOf ∘ fun client => .object (withFlow srv.flow client.toObject)) client :=
        fun client _ => (id_withFlow srv.flow client.toObject).symm
      rw [List.map_map, List.map_congr_left same]

lemma updateClients_client
    (ok : updateClients srv appendNewClient newId clients = .ok (updated, clientId)) :
    ∃ entry ∈ updated, idOf entry = .string clientId ∧
      entry.toObject.value "flow" = (unlessEmpty srv.flow).getD .undefined := by
  unfold updateClients at ok
  split at ok
  · cases ok
    refine ⟨_, List.mem_append_right _ List.mem_cons_self, ?_, flow_withFlow _ _⟩
    exact id_withFlow _ _
  · simp only at ok
    split at ok
    · cases ok
    · rename_i some_id
      cases ok
      cases clients with
      | nil => exact absurd rfl some_id
      | cons first rest =>
        refine ⟨_, List.mem_cons_self, ?_, flow_withFlow _ _⟩
        rw [idOf, Value.toObject, id_withFlow]
        -- an id that is no string would have been read as an empty one
        cases id : first.toObject.value "id" with
        | string text => simp [id, Value.toString, Value.toString?]
        | _ => simp [id, Value.toString, Value.toString?] at some_id

end Clients

/-! ## Client and server -/

def outboundOf (client : Object) : Object :=
  ((client.value "outbounds").toArray.headD .undefined).toObject

def vnextOf (outbound : Object) : Object :=
  (((outbound.value "settings").toObject.value "vnext").toArray.headD .undefined).toObject

def userOf (outbound : Object) : Object :=
  (((vnextOf outbound).value "users").toArray.headD .undefined).toObject

/-- An outbound of a client that the inbound of a server accepts. -/
structure Agree (inbound outbound : Object) : Prop where
  network : (streamOf inbound).value "network" = (streamOf outbound).value "network"
  security : (streamOf inbound).value "security" = (streamOf outbound).value "security"
  xhttp : (streamOf inbound).value "xhttpSettings" = (streamOf outbound).value "xhttpSettings"
  kcp : (streamOf inbound).value "kcpSettings" = (streamOf outbound).value "kcpSettings"
  port : inbound.value "port" = (vnextOf outbound).value "port"
  client : ∃ entry ∈ clientsOf inbound, idOf entry = (userOf outbound).value "id" ∧
    entry.toObject.value "flow" = (userOf outbound).value "flow"
  name : (streamOf outbound).value "security" = .string "reality" →
    ((streamOf outbound).value "realitySettings").toObject.value "serverName" ∈
      (((streamOf inbound).value "realitySettings").toObject.value "serverNames").toArray

/-- The port is given, or the server listens on the default one already. -/
def PortKnown (srv : Config) (inbound : Object) : Prop :=
  srv.port ≠ "" ∨ inbound.value "port" = .double 443

def NameKnown (srv : Config) : Prop :=
  srv.security = "reality" → srv.sni ≠ "" ∨ srv.site = "" ∨ srv.site = defaultSni

lemma outboundOf_built (hostName : String) (srv : Config) (clientId publicKey shortId : String) :
    outboundOf (buildClientProtocolConfig hostName srv clientId publicKey shortId) =
      clientOutbound hostName srv clientId publicKey shortId := rfl

lemma streamOf_outbound (hostName : String) (srv : Config) (clientId publicKey shortId : String) :
    streamOf (clientOutbound hostName srv clientId publicKey shortId) =
      clientStream srv publicKey shortId := rfl

lemma userOf_outbound (hostName : String) (srv : Config) (clientId publicKey shortId : String) :
    userOf (clientOutbound hostName srv clientId publicKey shortId) = clientUser srv clientId := rfl

lemma value_clientUser (srv : Config) (clientId key : String) :
    Object.value (clientUser srv clientId) key =
      (((userFields srv clientId).lookup key).join).getD .undefined := by
  have distinct : ((userFields srv clientId).map Prod.fst).Nodup := by
    change ["encryption", "flow", "id"].Nodup
    decide
  exact value_ofFields distinct key

lemma flow_clientUser (srv : Config) (clientId : String) :
    Object.value (clientUser srv clientId) "flow" = (unlessEmpty srv.flow).getD .undefined := by
  rw [value_clientUser]
  rfl

lemma id_clientUser (srv : Config) (clientId : String) :
    Object.value (clientUser srv clientId) "id" = .string clientId := by
  rw [value_clientUser]
  rfl

lemma port_iff (srv : Config) (clients : List Value) (inbound : Object) :
    Object.value (withClients clients (withStream srv inbound)) "port" = .double (clientPort srv) ↔
      PortKnown srv inbound := by
  rw [value_withClients _ _ _ (by decide), PortKnown, clientPort, orDefault]
  by_cases empty : srv.port = ""
  · have port : Object.value (withStream srv inbound) "port" = inbound.value "port" := by
      simp only [withStream, empty]
      exact value_put_other _ _ _ _ (by decide)
    have number : QtText.toInt defaultPort = 443 := by decide
    rw [port, if_pos empty, number]
    simp [empty]
  · simp [withStream, empty]

lemma name_iff (srv : Config) :
    orDefault srv.sni defaultSni = inboundName srv ↔
      srv.sni ≠ "" ∨ srv.site = "" ∨ srv.site = defaultSni := by
  unfold inboundName siteName
  by_cases sni : srv.sni = ""
  · by_cases site : srv.site = ""
    · simp [orDefault, site, defaultSite, defaultSni]
    · simp [orDefault, sni, site, eq_comm]
  · simp [orDefault, sni]

/-- After a call that succeeds, the client and the server agree if and only if the port and the name
are known. -/
theorem applied_agree_iff (srv : Config) (appendNewClient : Bool) (answers : Answers) (file : Value)
    (serverConfig client : Object)
    (uploaded : (applyServerSettingsToRemote srv appendNewClient answers file).uploaded =
      some serverConfig)
    (built : (applyServerSettingsToRemote srv appendNewClient answers file).client =
      .ok (some client)) :
    Agree (firstInbound serverConfig) (outboundOf client) ↔
      PortKnown srv (firstInbound file.toObject) ∧ NameKnown srv := by
  obtain ⟨_, clientId, publicKey, shortId, same, updated, rfl⟩ := client_some built
  cases uploaded.symm.trans same
  obtain ⟨clients, with_clients, inbound⟩ := updateServerConfig_ok updated
  have stream : streamOf (firstInbound serverConfig) =
      mergeStreamSettingsForServerInbound srv (streamOf (firstInbound file.toObject)) := by
    rw [inbound, streamOf, value_withClients _ _ _ (by decide), ← streamOf_withStream]
    rfl
  have inbound_clients : clientsOf (firstInbound serverConfig) = clients := by
    rw [inbound, clientsOf_withClients]
  have shared : ∀ key ≠ "realitySettings", (streamOf (firstInbound serverConfig)).value key =
      Object.value (clientStream srv publicKey shortId) key := by
    intro key no_reality
    rw [stream, value_merged _ _ _ no_reality, value_clientStream _ _ _ _ no_reality]
  rw [outboundOf_built]
  constructor
  · intro agree
    constructor
    · rw [← port_iff srv clients, ← inbound]
      exact agree.port
    · intro reality
      have known := agree.name
      rw [streamOf_outbound, value_clientStream _ _ _ _ (by decide), stream_security, reality,
        clientStream_name _ _ _ reality, stream, merged_reality _ _ reality,
        mergedReality_names] at known
      have member := known rfl
      rw [← name_iff]
      simpa [Value.toArray] using member
  · rintro ⟨port, name⟩
    constructor
    · exact shared _ (by decide)
    · exact shared _ (by decide)
    · exact shared _ (by decide)
    · exact shared _ (by decide)
    · rw [inbound]
      exact (port_iff srv clients _).mpr port
    · rw [inbound_clients, userOf_outbound, flow_clientUser, id_clientUser]
      exact updateClients_client with_clients
    · intro reality
      rw [streamOf_outbound, value_clientStream _ _ _ _ (by decide), stream_security] at reality
      have reality := Value.string.inj reality
      rw [streamOf_outbound, clientStream_name _ _ _ reality, stream, merged_reality _ _ reality,
        mergedReality_names, (name_iff srv).mpr (name reality)]
      exact List.mem_cons_self

/-! A server with one client, whose settings name a site but no server name. -/

def siteFile : Value :=
  .object [("inbounds", .array [.object
    [("port", .double 443), ("settings", .object [("clients", .array [.object [("id", .string "a")]])]),
      ("streamSettings", .object [("network", .string "tcp"), ("realitySettings", .object
        [("privateKey", .string "k"), ("shortIds", .array [.string "1f"])]),
        ("security", .string "reality")])]])]

def siteAnswers : Answers where
  hostName := "192.0.2.1"
  realityKeys := some ("p", "1f")
  readable := true
  newId := "b"
  uploaded := true
  restarted := true

def siteSettings : Config := { security := "reality", site := "example.com", port := "443" }

def siteApplied : Applied := applyServerSettingsToRemote siteSettings false siteAnswers siteFile

theorem named_site_agrees :
    let srv : Config := { siteSettings with sni := "example.com" }
    ∃ serverConfig client,
      (applyServerSettingsToRemote srv false siteAnswers siteFile).uploaded = some serverConfig ∧
      (applyServerSettingsToRemote srv false siteAnswers siteFile).client = .ok (some client) ∧
      Agree (firstInbound serverConfig) (outboundOf client) := by
  intro srv
  refine ⟨_, _, rfl, rfl, ?_⟩
  apply (applied_agree_iff srv false siteAnswers siteFile _ _ rfl rfl).mpr
  constructor
  · left
    decide
  · intro _
    decide

theorem unnamed_site_differs :
    ∃ serverConfig client, siteApplied.uploaded = some serverConfig ∧
      siteApplied.client = .ok (some client) ∧
      ¬Agree (firstInbound serverConfig) (outboundOf client) := by
  refine ⟨_, _, rfl, rfl, ?_⟩
  intro agree
  have same : Value.string "www.googletagmanager.com" = .string "example.com" :=
    List.mem_singleton.mp (agree.name rfl)
  exact absurd (Value.string.inj same) (by decide)

/-! ## Runs of calls -/

structure Server where
  file : Value
  security : Option String

structure Call where
  srv : Config
  appendNewClient : Bool
  answers : Answers

def Call.uploads (call : Call) (file : Value) : Option Object :=
  (applyServerSettingsToRemote call.srv call.appendNewClient call.answers file).uploaded

def step (server : Server) (call : Call) : Server :=
  match call.uploads server.file with
  | none => server
  | some serverConfig => ⟨.object serverConfig, some call.srv.security⟩

def realityOf (file : Value) : Object :=
  ((streamOf (firstInbound file.toObject)).value "realitySettings").toObject

def clientIds (file : Value) : List Value := (clientsOf (firstInbound file.toObject)).map idOf

structure HasKeys (file privateKey shortIds : Value) : Prop where
  privateKey : (realityOf file).value "privateKey" = privateKey
  shortIds : (realityOf file).value "shortIds" = shortIds

/-- Reality is not uploaded after settings with another security. -/
def RealityStays (server : Server) (call : Call) : Prop :=
  (call.uploads server.file).isSome = true → call.srv.security = "reality" →
    server.security = none ∨ server.security = some "reality"

section Uploads

variable {call : Call} {file : Value} {serverConfig : Object}

section

variable (uploaded : call.uploads file = some serverConfig)

include uploaded

lemma uploads_stream : streamOf (firstInbound serverConfig) =
      mergeStreamSettingsForServerInbound call.srv (streamOf (firstInbound file.toObject)) := by
  obtain ⟨_, updated⟩ := uploaded_some uploaded
  obtain ⟨_, -, inbound⟩ := updateServerConfig_ok updated
  rw [inbound, streamOf, value_withClients _ _ _ (by decide), ← streamOf_withStream]
  rfl

lemma uploads_reality (reality : call.srv.security = "reality") :
    realityOf (.object serverConfig) = mergedReality call.srv (realityOf file) := by
  rw [realityOf, Value.toObject, uploads_stream uploaded, merged_reality _ _ reality]
  rfl

lemma uploads_no_reality
    (other : call.srv.security ≠ "reality") : realityOf (.object serverConfig) = [] := by
  rw [realityOf, Value.toObject, uploads_stream uploaded, merged_no_reality _ _ other]

lemma uploads_ids : clientIds file <+: clientIds (.object serverConfig) := by
  obtain ⟨_, updated⟩ := uploaded_some uploaded
  obtain ⟨clients, with_clients, inbound⟩ := updateServerConfig_ok updated
  rw [clientIds, clientIds, Value.toObject, inbound, clientsOf_withClients]
  exact updateClients_ids with_clients

/-- The keys go through a merge if there were reality settings before it. -/
lemma uploads_keys {privateKey shortIds : Value} (reality : call.srv.security = "reality")
    (settings : realityOf file ≠ []) (keys : HasKeys file privateKey shortIds) :
    HasKeys (.object serverConfig) privateKey shortIds := by
  have other := mergedReality_other call.srv (realityOf file)
  rw [if_neg settings] at other
  constructor
  · rw [uploads_reality uploaded reality, other _ (by decide) (by decide) (by decide),
      keys.privateKey]
  · rw [uploads_reality uploaded reality, other _ (by decide) (by decide) (by decide),
      keys.shortIds]

lemma uploads_lost (reality : call.srv.security = "reality") (settings : realityOf file = []) :
    (realityOf (.object serverConfig)).value "privateKey" = .undefined := by
  rw [uploads_reality uploaded reality, mergedReality_other _ _ _ (by decide) (by decide) (by decide),
    if_pos settings]
  rfl

end

end Uploads

/-- The keys are there, or settings without reality have been uploaded last. -/
def KeysOrNone (privateKey shortIds : Value) (server : Server) : Prop :=
  if server.security = none ∨ server.security = some "reality" then
    HasKeys server.file privateKey shortIds
  else realityOf server.file = []

section Runs

variable {privateKey shortIds : Value} {server : Server} {call : Call}

lemma step_keys (has_key : privateKey ≠ .undefined) (held : KeysOrNone privateKey shortIds server)
    (stays : RealityStays server call) : KeysOrNone privateKey shortIds (step server call) := by
  unfold step
  split
  · exact held
  · rename_i serverConfig uploaded
    by_cases reality : call.srv.security = "reality"
    · have before := stays (by rw [uploaded]; rfl) reality
      have keys : HasKeys server.file privateKey shortIds := by
        rwa [KeysOrNone, if_pos before] at held
      have settings : realityOf server.file ≠ [] := by
        intro empty
        apply has_key
        rw [← keys.privateKey, empty]
        rfl
      rw [KeysOrNone, if_pos (Or.inr (by rw [reality]))]
      exact uploads_keys uploaded reality settings keys
    · rw [KeysOrNone, if_neg (by simpa using reality)]
      exact uploads_no_reality uploaded reality

lemma step_needs_reality (has_key : privateKey ≠ .undefined)
    (held : KeysOrNone privateKey shortIds server)
    (after : (step server call).security = some "reality" →
      HasKeys (step server call).file privateKey shortIds) : RealityStays server call := by
  intro uploads reality
  obtain ⟨serverConfig, uploaded⟩ := Option.isSome_iff_exists.mp uploads
  by_contra before
  rw [KeysOrNone, if_neg before] at held
  have stepped : step server call = ⟨.object serverConfig, some call.srv.security⟩ := by
    rw [step, uploaded]
  rw [stepped] at after
  have keys := after (by rw [reality])
  apply has_key
  rw [← keys.privateKey]
  exact uploads_lost uploaded reality held

lemma step_ids (server : Server) (call : Call) :
    clientIds server.file <+: clientIds (step server call).file := by
  unfold step
  split
  · exact List.prefix_refl _
  · rename_i uploaded
    exact uploads_ids uploaded

end Runs

/-- From a server with reality keys, the keys are there in every state of a run in which reality was
uploaded last if and only if reality is never uploaded after another security. No call removes or
changes the id of a client. -/
theorem reality_keys_iff (file privateKey shortIds : Value) (has_key : privateKey ≠ .undefined)
    (keys : HasKeys file privateKey shortIds) (calls : List Call) :
    ((∀ server, Runs.Visits step ⟨file, none⟩ calls server → server.security = some "reality" →
        HasKeys server.file privateKey shortIds) ↔
      Runs.Guarded step RealityStays ⟨file, none⟩ calls) ∧
    ∀ server call, clientIds server.file <+: clientIds (step server call).file := by
  constructor
  · have implied : ∀ server, KeysOrNone privateKey shortIds server →
        server.security = some "reality" → HasKeys server.file privateKey shortIds := by
      intro server held reality
      rwa [KeysOrNone, if_pos (Or.inr reality)] at held
    have start : KeysOrNone privateKey shortIds ⟨file, none⟩ := by
      rwa [KeysOrNone, if_pos (Or.inl rfl)]
    exact Runs.visits_property_iff implied (fun _ _ held stays => step_keys has_key held stays)
      (fun _ _ held after => step_needs_reality has_key held after) _ calls start
  · exact step_ids

theorem reality_twice_kept :
    let call : Call := ⟨siteSettings, true, siteAnswers⟩
    HasKeys (Runs.run step ⟨siteFile, none⟩ [call, call]).file (.string "k")
      (.array [.string "1f"]) := by
  intro call
  apply ((reality_keys_iff siteFile (.string "k") (.array [.string "1f"]) (nomatch ·) ⟨rfl, rfl⟩
    [call, call]).1.mpr ?_) _ (Runs.visits_last step _ _) rfl
  exact ⟨fun _ _ => Or.inl rfl, fun _ _ => Or.inr rfl, trivial⟩

/-- Settings with TLS between two with reality. -/
theorem tls_loses_keys :
    let calls : List Call := [⟨siteSettings, false, siteAnswers⟩,
      ⟨{ siteSettings with security := "tls" }, false, siteAnswers⟩,
      ⟨siteSettings, false, siteAnswers⟩]
    HasKeys siteFile (.string "k") (.array [.string "1f"]) ∧
    (Runs.run step ⟨siteFile, none⟩ calls).security = some "reality" ∧
    ¬HasKeys (Runs.run step ⟨siteFile, none⟩ calls).file (.string "k") (.array [.string "1f"]) := by
  intro calls
  refine ⟨⟨rfl, rfl⟩, rfl, ?_⟩
  intro keys
  have lost : Value.undefined = .string "k" := keys.privateKey
  cases lost

end AbstractumVpn.XrayConfigurator
