import Mathlib
import DurableMqtt.Proofs.Backoff
import DurableMqtt.Proofs.Network.Transport
import DurableMqtt.Session.Settings

/-!
What becomes of a configuration that has no complaints.

A configuration is looked at more than once. The complaints are collected first; then the quiet
times, the name of the client and the files for TLS are checked again, each where it is used. For the
quiet times the two looks agree. The second look at the others sees more: a name must not begin with
a space, and a client that is to show a certificate needs its key as well.
-/

namespace DurableMqtt

variable {files : FileLookup} {config : TransportConfig}

def ClientId.isIndented : ClientId → Bool
  | given text => text.startsWith " "
  | generated => false

/-- Of a client certificate and its key, one is named and the other is not. -/
def TlsConfig.isHalfAuthenticated (t : TlsConfig) : Bool :=
  t.clientCertificate.isSome != t.clientKey.isSome

theorem TlsConfig.isHalfAuthenticated_iff {t : TlsConfig} :
    t.isHalfAuthenticated = true ↔ t.clientCertificate.isSome ≠ t.clientKey.isSome := bne_iff_ne

theorem lengthWithin_eq_nil {path message : String} {length most : Nat} :
    lengthWithin path length most message = [] ↔ 1 ≤ length ∧ length ≤ most := by
  simp [lengthWithin]

namespace TransportConfig

theorem clientId_sound (sound : config.violations files = []) :
    1 ≤ config.endpoint.clientId.length ∧ config.endpoint.clientId.length ≤ 36 := by
  simp only [violations, EndpointConfig.violations, List.append_eq_nil_iff,
    List.map_eq_nil_iff] at sound
  exact lengthWithin_eq_nil.mp sound.1.1.1.1.1.1.1.1.2

theorem usable_iff (sound : config.violations files = []) :
    config.endpoint.clientId.isUsable = true ↔ config.endpoint.clientId.isIndented = false := by
  have long := (clientId_sound sound).1
  cases name : config.endpoint.clientId with
  | generated => decide
  | given text =>
    rw [name] at long
    have filled : text.isEmpty = false := by
      rw [String.isEmpty_eq_false_iff]
      rintro rfl
      exact absurd long (by decide)
    simp only [ClientId.isUsable, ClientId.isIndented, filled, Bool.not_false, Bool.true_and,
      Bool.not_eq_true']

end TransportConfig

theorem Settings.ofConfig_of_sound (sound : config.violations files = []) :
    ∃ settings, Settings.ofConfig files config = .ok settings ∧
      config.backoff.timing = .ok settings.timing := by
  obtain ⟨timing, made, -, -⟩ :=
    BackoffConfig.timing_of_sound (TransportConfig.backoff_sound sound)
  unfold Settings.ofConfig
  simp only [sound, made, List.isEmpty_nil]
  exact ⟨_, rfl, rfl⟩

namespace Network

theorem transportOf_plain (plain : ∀ tls, config.tls = some tls → tls.caCertificate = none) :
    transportOf files config = .ok .tcp := by
  cases present : config.tls with
  | none => simp only [transportOf, present]; rfl
  | some tls =>
    apply transportOf_disabled present
    rw [TlsConfig.isEnabled, plain tls present]
    decide

theorem transportOf_of_sound (sound : config.violations files = []) :
    if ∃ tls, config.tls = some tls ∧ tls.isEnabled = true ∧ tls.isHalfAuthenticated = true then
      transportOf files config = .error (.setup ("Invalid TLS configuration: " ++
        TlsFault.incompleteClientAuth.message))
    else ∃ transport, transportOf files config = .ok transport := by
  by_cases plain : ∀ tls, config.tls = some tls → tls.caCertificate = none
  · rw [if_neg]
    · exact ⟨_, transportOf_plain plain⟩
    · rintro ⟨tls, present, enabled, -⟩
      rw [TlsConfig.isEnabled, plain tls present] at enabled
      cases enabled
  · push Not at plain
    obtain ⟨tls, present, anchored⟩ := plain
    obtain ⟨ca, anchored⟩ := Option.ne_none_iff_exists'.mp anchored
    have enabled : tls.isEnabled = true := Option.isSome_iff_exists.mpr ⟨ca, anchored⟩
    obtain ⟨matched, unmatched⟩ :=
      TlsConfig.transport_of_sound (TransportConfig.tls_sound sound present) anchored
    rw [transportOf_enabled present enabled]
    split
    next half =>
      obtain ⟨other, same, -, half⟩ := half
      rw [present] at same
      cases same
      exact unmatched (TlsConfig.isHalfAuthenticated_iff.mp half)
    next whole =>
      have both : tls.clientCertificate.isSome = tls.clientKey.isSome := by
        by_contra apart
        exact whole ⟨tls, present, enabled, TlsConfig.isHalfAuthenticated_iff.mpr apart⟩
      obtain ⟨content, auth, made, -⟩ := matched both
      exact ⟨_, made⟩

theorem ofConfig_of_indented {text : String} (given : config.endpoint.clientId = .given text)
    (indented : text.startsWith " " = true) :
    Client.ofConfig files config = .error (.setup ("Invalid client id " ++ Text.quoted text)) := by
  have unusable : ¬ClientId.isUsable (.given text) = true := by
    simp [ClientId.isUsable, indented]
  have refused : ClientId.check (.given text) =
      .error (.setup ("Invalid client id " ++ Text.quoted text)) := if_neg unusable
  simp [Client.ofConfig, Options.ofConfig, given, refused, bind, Except.bind]

/-- A configuration without complaints has the settings of a session, with the quiet times that it
names. It also makes a client, while the files stay as they were, unless the name of the client
begins with a space, or a certificate of an authority stands beside a client certificate without
its key or a key without its certificate. Each of the two is refused with a message of its own, the
name first. -/
theorem prepared_iff (sound : config.violations files = []) :
    (∃ settings, Settings.ofConfig files config = .ok settings ∧
      config.backoff.timing = .ok settings.timing) ∧
    ((∃ client, Client.ofConfig files config = .ok client) ↔
      config.endpoint.clientId.isIndented = false ∧
      ¬∃ tls, config.tls = some tls ∧ tls.isEnabled = true ∧ tls.isHalfAuthenticated = true) ∧
    (∀ text, config.endpoint.clientId = .given text → text.startsWith " " = true →
      Client.ofConfig files config =
        .error (.setup ("Invalid client id " ++ Text.quoted text))) ∧
    (config.endpoint.clientId.isIndented = false → ∀ tls, config.tls = some tls →
      tls.isEnabled = true → tls.isHalfAuthenticated = true →
      Client.ofConfig files config = .error (.setup ("Invalid TLS configuration: " ++
        "Both client certificate and key must be provided or neither"))) := by
  have transports := transportOf_of_sound sound
  refine ⟨Settings.ofConfig_of_sound sound, ?_, fun text => ofConfig_of_indented, ?_⟩
  · constructor
    · rintro ⟨client, made⟩
      have usable : config.endpoint.clientId.isUsable = true := by
        by_contra unusable
        obtain ⟨error, refused⟩ := ofConfig_of_unusable files unusable
        rw [refused] at made
        cases made
      refine ⟨(TransportConfig.usable_iff sound).mp usable, fun half => ?_⟩
      obtain ⟨build, -, built⟩ := ofConfig_of_usable files usable
      rw [if_pos half] at transports
      rw [built, transports] at made
      cases made
    · rintro ⟨flush, whole⟩
      obtain ⟨build, -, built⟩ :=
        ofConfig_of_usable files ((TransportConfig.usable_iff sound).mpr flush)
      rw [if_neg whole] at transports
      obtain ⟨transport, made⟩ := transports
      exact ⟨build transport, by rw [built, made]; rfl⟩
  · intro flush tls present enabled half
    obtain ⟨build, -, built⟩ :=
      ofConfig_of_usable files ((TransportConfig.usable_iff sound).mpr flush)
    rw [if_pos ⟨tls, present, enabled, half⟩] at transports
    rw [built, transports]
    rfl

def indentedConfig : TransportConfig := { endpoint := { clientId := .given " e" } }

def keylessConfig : TransportConfig :=
  { tls := some { caCertificate := some "ca.pem", clientCertificate := some "client.pem" } }

theorem mutualConfig_prepared :
    mutualConfig.violations pemFiles = [] ∧ indentedConfig.violations pemFiles = [] ∧
    keylessConfig.violations pemFiles = [] ∧
    (∃ settings, Settings.ofConfig pemFiles mutualConfig = .ok settings ∧
      mutualConfig.backoff.timing = .ok settings.timing) ∧
    (∃ client, Client.ofConfig pemFiles mutualConfig = .ok client) ∧
    Client.ofConfig pemFiles indentedConfig = .error (.setup "Invalid client id \" e\"") ∧
    Client.ofConfig pemFiles keylessConfig = .error (.setup ("Invalid TLS configuration: " ++
      "Both client certificate and key must be provided or neither")) := by
  have sound : mutualConfig.violations pemFiles = [] := by decide +kernel
  have indented : indentedConfig.violations pemFiles = [] := by decide +kernel
  have keyless : keylessConfig.violations pemFiles = [] := by decide +kernel
  obtain ⟨settings, client, -, -⟩ := prepared_iff sound
  obtain ⟨-, -, named, -⟩ := prepared_iff indented
  obtain ⟨-, -, -, shown⟩ := prepared_iff keyless
  have quoted : "Invalid client id " ++ Text.quoted " e" = "Invalid client id \" e\"" := by
    decide +kernel
  refine ⟨sound, indented, keyless, settings, client.mpr ⟨by decide, ?_⟩, ?_, ?_⟩
  · rintro ⟨tls, present, -, half⟩
    cases present
    exact absurd half (by decide)
  · rw [named " e" rfl (by decide +kernel), quoted]
  · exact shown (by decide) _ rfl (by decide) (by decide)

/-- Both configurations pass every check and have the settings of a session, and neither makes a
client. -/
theorem indentedConfig_refused :
    (indentedConfig.violations pemFiles = [] ∧
      (Settings.ofConfig pemFiles indentedConfig).isOk = true ∧
      (Client.ofConfig pemFiles indentedConfig).isOk = false) ∧
    keylessConfig.violations pemFiles = [] ∧
    (Settings.ofConfig pemFiles keylessConfig).isOk = true ∧
    (Client.ofConfig pemFiles keylessConfig).isOk = false := by
  decide +kernel

end Network

end DurableMqtt
