import Mathlib
import DurableMqtt.Network.Client

/-!
Which connections go over TLS.

A configuration names up to three files for TLS, and every check of its own looks at one of them.
Only the certificate of an authority turns TLS on. That a client certificate and its key are of no
use without it is checked only where TLS is on already, so a configuration that names them alone
passes every check and leads to plain TCP.
-/

namespace DurableMqtt

theorem ok_of_bind {ε α β : Type} {x : Except ε α} {next : α → Except ε β} {b : β}
    (result : (x >>= next) = .ok b) : ∃ a, x = .ok a ∧ next a = .ok b := by
  cases x with
  | error => cases result
  | ok a => exact ⟨a, rfl, result⟩

theorem FileLookup.regular_of_check {files : FileLookup} {path : String}
    (sound : files.check path = .ok ()) : ∃ content, files path = some (.regular content) := by
  unfold check at sound
  split at sound
  next => cases sound
  next =>
    split at sound
    next => cases sound
    next content found => exact ⟨content, found⟩
    next => cases sound

theorem FileLookup.read_of_regular {files : FileLookup} {path : String} {content : ByteArray}
    (found : files path = some (.regular content)) : files.read path = .ok content := by
  rw [read, found]

theorem check_of_pathViolations {files : FileLookup} {field message path : String}
    (sound : pathViolations files field (some path) message = []) : files.check path = .ok () := by
  unfold pathViolations at sound
  split at sound
  next => cases sound
  next other =>
    cases check : files.check path with
    | ok => rfl
    | error fault => exact absurd (congrArg some check) (other fault)

theorem TransportConfig.tls_sound {files : FileLookup} {config : TransportConfig} {tls : TlsConfig}
    (sound : config.violations files = []) (present : config.tls = some tls) :
    tls.violations files = [] := by
  simp only [violations, List.append_eq_nil_iff, present, optionalViolations,
    List.map_eq_nil_iff] at sound
  exact sound.1.1.1.2

namespace TlsConfig

variable {files : FileLookup} {t : TlsConfig}

theorem mem_paths {path : String} :
    path ∈ t.paths ↔
      t.caCertificate = some path ∨ t.clientCertificate = some path ∨ t.clientKey = some path := by
  simp [paths, eq_comm]

theorem checked_of_sound (sound : t.violations files = []) :
    ∀ path ∈ t.paths, files.check path = .ok () := by
  simp only [violations, List.append_eq_nil_iff] at sound
  intro path named
  rcases mem_paths.mp named with ca | certificate | key
  · rw [ca] at sound
    exact check_of_pathViolations sound.1.1
  · rw [certificate] at sound
    exact check_of_pathViolations sound.1.2
  · rw [key] at sound
    exact check_of_pathViolations sound.2

theorem transport_of_sound (sound : t.violations files = []) {ca : String}
    (anchored : t.caCertificate = some ca) :
    (t.clientCertificate.isSome = t.clientKey.isSome → ∃ content auth,
      t.transport files = .ok (.tls content auth) ∧ files ca = some (.regular content) ∧
        t.clientCertificate.bind files = auth.map (fun a => .regular a.certificate) ∧
        t.clientKey.bind files = auth.map (fun a => .regular a.key)) ∧
    (t.clientCertificate.isSome ≠ t.clientKey.isSome →
      t.transport files = .error (.setup ("Invalid TLS configuration: " ++
        TlsFault.incompleteClientAuth.message))) := by
  have checked := checked_of_sound sound
  have trusted := checked ca (mem_paths.mpr (.inl anchored))
  obtain ⟨content, found⟩ := FileLookup.regular_of_check trusted
  have read := FileLookup.read_of_regular found
  unfold transport combination
  cases certificate : t.clientCertificate with
  | none =>
    cases key : t.clientKey with
    | none =>
      refine ⟨fun _ => ⟨content, none, ?_, found, rfl, rfl⟩, fun apart => absurd rfl apart⟩
      simp [anchored, trusted, read, bind, Except.bind, Except.mapError, pure, Except.pure]
    | some path =>
      refine ⟨fun both => Bool.noConfusion both, fun _ => ?_⟩
      simp [anchored, trusted, bind, Except.bind, Except.mapError]
  | some path =>
    cases key : t.clientKey with
    | none =>
      refine ⟨fun both => Bool.noConfusion both, fun _ => ?_⟩
      simp [anchored, trusted, bind, Except.bind, Except.mapError]
    | some other =>
      have shown := checked path (mem_paths.mpr (.inr (.inl certificate)))
      have proved := checked other (mem_paths.mpr (.inr (.inr key)))
      obtain ⟨own, ownFound⟩ := FileLookup.regular_of_check shown
      obtain ⟨secret, secretFound⟩ := FileLookup.regular_of_check proved
      have ownRead := FileLookup.read_of_regular ownFound
      have secretRead := FileLookup.read_of_regular secretFound
      refine ⟨fun _ => ⟨content, some ⟨own, secret⟩, ?_, found, ownFound, secretFound⟩,
        fun apart => absurd rfl apart⟩
      simp [anchored, trusted, shown, proved, read, ownRead, secretRead, bind, Except.bind,
        Except.mapError, pure, Except.pure]

theorem transport_ne_tcp (files : FileLookup) (t : TlsConfig) : t.transport files ≠ .ok .tcp := by
  intro plain
  obtain ⟨_, -, plain⟩ := ok_of_bind plain
  simp only at plain
  split at plain
  next => cases plain
  next =>
    obtain ⟨ca, -, plain⟩ := ok_of_bind plain
    split at plain
    next =>
      obtain ⟨certificate, -, plain⟩ := ok_of_bind plain
      obtain ⟨key, -, plain⟩ := ok_of_bind plain
      cases plain
    next => cases plain

end TlsConfig

theorem ClientId.check_of_usable {id : ClientId} (usable : id.isUsable = true) :
    id.check = .ok () := by
  cases id with
  | given text => rw [check, if_pos usable]
  | generated => rfl

theorem ClientId.check_of_unusable {id : ClientId} (unusable : ¬id.isUsable = true) :
    ∃ error, id.check = .error error := by
  cases id with
  | given text => exact ⟨_, if_neg unusable⟩
  | generated => exact absurd rfl unusable

namespace Network

def transportOf (files : FileLookup) (config : TransportConfig) : Except SessionError Transport :=
  match config.tls with
  | some tls => if tls.isEnabled then tls.transport files else pure .tcp
  | none => pure .tcp

theorem transportOf_enabled {files : FileLookup} {config : TransportConfig} {tls : TlsConfig}
    (present : config.tls = some tls) (enabled : tls.isEnabled = true) :
    transportOf files config = tls.transport files := by
  simp only [transportOf, present, if_pos enabled]

theorem transportOf_disabled {files : FileLookup} {config : TransportConfig} {tls : TlsConfig}
    (present : config.tls = some tls) (disabled : ¬tls.isEnabled = true) :
    transportOf files config = .ok .tcp := by
  simp only [transportOf, present, if_neg disabled]
  rfl

theorem ofConfig_of_unusable (files : FileLookup) {config : TransportConfig}
    (unusable : ¬config.endpoint.clientId.isUsable = true) :
    ∃ error, Client.ofConfig files config = .error error := by
  obtain ⟨error, refused⟩ := ClientId.check_of_unusable unusable
  exact ⟨error, by simp [Client.ofConfig, Options.ofConfig, refused, bind, Except.bind]⟩

theorem ofConfig_of_usable (files : FileLookup) {config : TransportConfig}
    (usable : config.endpoint.clientId.isUsable = true) :
    ∃ build : Transport → Client, (∀ transport, (build transport).options.transport = transport) ∧
      Client.ofConfig files config = (transportOf files config).map build := by
  have accepted := ClientId.check_of_usable usable
  let options (transport : Transport) : Options :=
    { clientId := config.endpoint.clientId
      host := config.endpoint.host
      port := config.endpoint.port
      keepAlive := .ofSeconds config.endpoint.keepAlive
      cleanSession := config.endpoint.cleanSession
      credentials := config.credentials.map fun c => ⟨c.username, c.password.getD ""⟩
      lastWill := config.lastWill.map fun w => ⟨w.topic, w.payload.toUTF8, w.qos, w.retain⟩
      transport }
  have made : Options.ofConfig files config = (transportOf files config).map options := by
    unfold Options.ofConfig transportOf
    rw [accepted]
    cases config.tls with
    | none => rfl
    | some tls =>
      by_cases enabled : tls.isEnabled = true
      · simp only [if_pos enabled]
        cases tls.transport files <;> rfl
      · simp only [if_neg enabled]
        rfl
  refine ⟨fun transport => .ofOptions (options transport) config.endpoint.requestCapacity.toNat,
    fun _ => rfl, ?_⟩
  rw [Client.ofConfig, made]
  cases transportOf files config <;> rfl

/-- From a configuration without complaints comes a client over plain TCP just if its client name can
be used and it names no certificate of an authority, whatever else it names, and even if the files
have changed meanwhile. With such a certificate, the client goes over TLS with the content of all
files that are named, unless it would show a certificate without its key or a key without its
certificate, which is refused. -/
theorem plain_iff_unanchored {earlier : FileLookup} {config : TransportConfig}
    (sound : config.violations earlier = []) {tls : TlsConfig} (present : config.tls = some tls) :
    (∀ files, (∃ client, Client.ofConfig files config = .ok client ∧
        client.options.transport = .tcp) ↔
      config.endpoint.clientId.isUsable = true ∧ tls.caCertificate = none) ∧
    (config.endpoint.clientId.isUsable = true → ∀ path, tls.caCertificate = some path →
      if tls.clientCertificate.isSome = tls.clientKey.isSome then
        ∃ client content auth, Client.ofConfig earlier config = .ok client ∧
          client.options.transport = .tls content auth ∧
          earlier path = some (.regular content) ∧
          tls.clientCertificate.bind earlier = auth.map (fun a => .regular a.certificate) ∧
          tls.clientKey.bind earlier = auth.map (fun a => .regular a.key)
      else
        Client.ofConfig earlier config = .error (.setup ("Invalid TLS configuration: " ++
          "Both client certificate and key must be provided or neither"))) := by
  constructor
  · intro files
    constructor
    · rintro ⟨client, made, plain⟩
      have usable : config.endpoint.clientId.isUsable = true := by
        by_contra unusable
        obtain ⟨error, refused⟩ := ofConfig_of_unusable files unusable
        rw [refused] at made
        cases made
      obtain ⟨build, kept, built⟩ := ofConfig_of_usable files usable
      rw [built] at made
      refine ⟨usable, ?_⟩
      by_contra anchored
      have enabled : tls.isEnabled = true := Option.isSome_iff_ne_none.mpr anchored
      rw [transportOf_enabled present enabled] at made
      cases wanted : tls.transport files with
      | error error =>
        rw [wanted] at made
        cases made
      | ok transport =>
        rw [wanted] at made
        cases made
        rw [kept] at plain
        exact tls.transport_ne_tcp files (wanted.trans (congrArg _ plain))
    · rintro ⟨usable, unanchored⟩
      obtain ⟨build, kept, built⟩ := ofConfig_of_usable files usable
      have disabled : ¬tls.isEnabled = true := by simp [TlsConfig.isEnabled, unanchored]
      rw [transportOf_disabled present disabled] at built
      exact ⟨build .tcp, built, kept .tcp⟩
  · intro usable path anchored
    obtain ⟨build, kept, built⟩ := ofConfig_of_usable earlier usable
    have enabled : tls.isEnabled = true := by rw [TlsConfig.isEnabled, anchored]; rfl
    rw [transportOf_enabled present enabled] at built
    obtain ⟨matched, unmatched⟩ :=
      TlsConfig.transport_of_sound (TransportConfig.tls_sound sound present) anchored
    split
    next both =>
      obtain ⟨content, auth, made, found, shown, proved⟩ := matched both
      rw [made] at built
      exact ⟨build (.tls content auth), content, auth, built, kept _, found, shown, proved⟩
    next apart =>
      rw [built, unmatched apart]
      rfl

def pemFiles : FileLookup
  | "ca.pem" => some (.regular ⟨#[1]⟩)
  | "client.pem" => some (.regular ⟨#[2]⟩)
  | "client.key" => some (.regular ⟨#[3]⟩)
  | _ => none

def mutualConfig : TransportConfig :=
  { tls := some
      { caCertificate := some "ca.pem"
        clientCertificate := some "client.pem"
        clientKey := some "client.key" } }

theorem mutualConfig_secured :
    mutualConfig.violations pemFiles = [] ∧
    (∃ client, Client.ofConfig pemFiles mutualConfig = .ok client ∧
      client.options.transport = .tls ⟨#[1]⟩ (some ⟨⟨#[2]⟩, ⟨#[3]⟩⟩)) ∧
    ∀ files, ¬∃ client, Client.ofConfig files mutualConfig = .ok client ∧
      client.options.transport = .tcp := by
  have sound : mutualConfig.violations pemFiles = [] := by decide +kernel
  obtain ⟨plain, secured⟩ := plain_iff_unanchored sound rfl
  obtain ⟨client, content, auth, made, transport, found, shown, proved⟩ := secured rfl "ca.pem" rfl
  refine ⟨sound, ⟨client, made, ?_⟩, fun files made => Option.some_ne_none _ ((plain files).mp made).2⟩
  cases auth with
  | none => cases shown
  | some auth =>
    obtain ⟨certificate, key⟩ := auth
    cases found
    cases shown
    cases proved
    exact transport

/-- A client that is to show its own certificate. -/
def unanchoredConfig : TransportConfig :=
  { tls := some { clientCertificate := some "client.pem", clientKey := some "client.key" } }

/-- The configuration passes every check and names two files, and the client goes over plain TCP. -/
theorem unanchoredConfig_plain :
    unanchoredConfig.violations pemFiles = [] ∧
    unanchoredConfig.tls.map TlsConfig.paths = some ["client.pem", "client.key"] ∧
    ∃ client, Client.ofConfig pemFiles unanchoredConfig = .ok client ∧
      client.options.transport = .tcp :=
  ⟨by decide +kernel, rfl, _, rfl, rfl⟩

end Network

end DurableMqtt
