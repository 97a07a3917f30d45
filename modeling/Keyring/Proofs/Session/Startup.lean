import Keyring.Proofs.Session.Survival

/-!
# Startup checks and the key at run time

The check of the settings and the making of an encryptor read the key of the settings apart from
each other. Both find fault with the same keys, so a process that starts with a key that passed the
check can encode and decode.
-/

namespace Keyring

namespace Settings

variable {settings : Settings}

theorem checkKey_of_key {key : Bytes} (h : settings.key? = some key) : settings.checkKey = [] := by
  obtain ⟨text, htext, hof⟩ := text_of_key h
  simp only [checkKey, htext, hof]

theorem checkKey_of_no_key (h : settings.key? = none) :
    settings.encryptionKey = none ∧ settings.checkKey = [missingKey settings.environment] ∨
      settings.encryptionKey.isSome = true ∧ settings.checkKey = [invalidKey] := by
  rcases fault_of_no_key h with htext | ⟨text, fault, htext, hof⟩
  · exact .inl ⟨htext, by simp only [checkKey, htext]⟩
  · exact .inr ⟨by rw [htext]; rfl, by simp only [checkKey, htext, hof]⟩

theorem missingKey_field (environment : Deployment) :
    (missingKey environment).field = SettingName.encryptionKey.text := by
  unfold missingKey
  split <;> rfl

theorem field_ne_of_mem_checkWidth {f : Finding} (h : f ∈ settings.checkWidth) :
    f.field ≠ SettingName.encryptionKey.text := by
  unfold checkWidth at h
  split at h
  · cases h
  · cases List.mem_singleton.mp h
    simp only
    decide

theorem field_ne_of_mem_checkDeployment {f : Finding} (h : f ∈ settings.checkDeployment) :
    f.field ≠ SettingName.encryptionKey.text := by
  unfold checkDeployment at h
  split at h
  · cases List.mem_singleton.mp h
    simp only
    decide
  · cases h

theorem mem_findings {f : Finding} (h : settings.checkKey = [f]) : f ∈ settings.findings := by
  rw [findings, h]
  exact List.mem_append_left _ (List.mem_singleton_self f)

theorem reports_key_iff :
    (∃ f ∈ settings.findings, f.field = SettingName.encryptionKey.text) ↔ settings.key? = none := by
  constructor
  · rintro ⟨f, hf, hfield⟩
    cases hkey : settings.key? with
    | none => rfl
    | some key =>
      rw [findings, checkKey_of_key hkey, List.nil_append] at hf
      rcases List.mem_append.mp hf with hf | hf
      · exact absurd hfield (field_ne_of_mem_checkWidth hf)
      · exact absurd hfield (field_ne_of_mem_checkDeployment hf)
  · intro hkey
    rcases checkKey_of_no_key hkey with ⟨-, hcheck⟩ | ⟨-, hcheck⟩
    · exact ⟨_, mem_findings hcheck, missingKey_field settings.environment⟩
    · exact ⟨_, mem_findings hcheck, rfl⟩

theorem severity_of_validate {warnings : List Text} (h : settings.validate = .ok warnings) :
    ∀ f ∈ settings.findings, f.severity ≠ .error := by
  intro f hf herror
  unfold validate at h
  split at h
  next hempty =>
    have hreport : f.report ∈ reports .error settings.findings := by
      apply List.mem_map_of_mem
      exact List.mem_filter.mpr ⟨hf, decide_eq_true herror⟩
    rw [List.isEmpty_iff.mp hempty] at hreport
    cases hreport
  next => cases h

theorem key_of_validate {warnings : List Text} (h : settings.validate = .ok warnings)
    (hset : settings.encryptionKey.isSome = true) : ∃ key, settings.key? = some key := by
  cases hkey : settings.key? with
  | some key => exact ⟨key, rfl⟩
  | none =>
    rcases checkKey_of_no_key hkey with ⟨hnone, -⟩ | ⟨-, hcheck⟩
    · rw [hnone] at hset
      cases hset
    · -- an unusable key is an error in every deployment
      exact absurd rfl (severity_of_validate h invalidKey (mem_findings hcheck))

end Settings

namespace Session

variable {s : Session} {settings : Settings}

/-- An encryptor is made if there is a key of the right form, and else the key is at fault. -/
theorem getEncryptor_outcome (h : s.encryptor = none) (hsees : s.Sees settings) :
    settings.key?.isSome = true ∧ (∃ held, s.getEncryptor.1 = .ok held) ∨
      settings.key? = none ∧ ∃ fault, s.getEncryptor.1 = .error (.key fault) := by
  cases hkey : settings.key? with
  | none =>
    obtain ⟨fault, hfault⟩ := encryptorOf_of_no_key hkey
    have hget := getEncryptor_of_no_key h hsees hfault
    exact .inr ⟨rfl, fault, congrArg Prod.fst hget⟩
  | some key =>
    obtain ⟨e, he, -⟩ := encryptorOf_of_key hkey
    have hget := getEncryptor_of_key h hsees he
    exact .inl ⟨rfl, _, congrArg Prod.fst hget⟩

/-- For a session that has made neither encryptor nor codec: the check reports the key if and only
if the key is why no encryptor is made, and what has a key and passed the check encodes and decodes.
A text is a key of the size that encryptors take, or is refused; what is written for a key is read
as that key if it has this size. -/
theorem startup_agrees :
    (∀ (s : Session) settings, s.encryptor = none → s.Sees settings →
      ((∃ f ∈ settings.findings, f.field = SettingName.encryptionKey.text) ↔
        ∃ fault, s.getEncryptor.1 = .error (.key fault)) ∧
      ((∃ held, s.getEncryptor.1 = .ok held) ∨
        ∃ fault, s.getEncryptor.1 = .error (.key fault))) ∧
    (∀ (s : Session) settings warnings, s.encryptor = none → s.codec = none → s.Sees settings →
      settings.validate = .ok warnings → settings.encryptionKey.isSome = true →
        ∀ plaintext, ∃ text next, s.encodeSecret plaintext = (.ok text, next) ∧
          (next.decodeSecret (some text)).value.1 = .ok plaintext) ∧
    (∀ text, (∃ key e, Cipher.Key.ofText text = .ok key ∧ key.length = Cipher.keySize ∧
        Cipher.Encryptor.ofKey key = .ok e) ∨
      (∃ fault, Cipher.Key.ofText text = .error (.notBase64 fault)) ∨
      ∃ size, Cipher.Key.ofText text = .error (.wrongSize size) ∧ size ≠ Cipher.keySize) ∧
    ∀ key, Cipher.Key.ofText (Cipher.Key.toText key) =
      if key.length = Cipher.keySize then .ok key else .error (.wrongSize key.length) := by
  refine ⟨?_, ?_, ?_, Cipher.Key.ofText_toText⟩
  · intro s settings hencryptor hsees
    rw [Settings.reports_key_iff]
    rcases getEncryptor_outcome hencryptor hsees with ⟨hkey, hmade⟩ | ⟨hkey, hfault⟩
    · refine ⟨⟨fun hnone => ?_, fun ⟨fault, hfault⟩ => ?_⟩, .inl hmade⟩
      · rw [hnone] at hkey
        cases hkey
      · obtain ⟨held, hheld⟩ := hmade
        rw [hheld] at hfault
        cases hfault
    · exact ⟨⟨fun _ => hfault, fun _ => hkey⟩, .inr hfault⟩
  · intro s settings warnings hencryptor hcodec hsees hvalid hset plaintext
    obtain ⟨key, hkey⟩ := Settings.key_of_validate hvalid hset
    have hunmade : Unmade s := ⟨hencryptor, hcodec⟩
    obtain ⟨e, he⟩ := hunmade.serves hsees hkey
    obtain ⟨text, next, hencode, hnext, hreads⟩ := he.decodeSecret_encodeSecret plaintext
    exact ⟨text, next, hencode, hreads next hnext⟩
  · intro text
    rcases Cipher.Key.ofText_cases text with ⟨key, hof, hsize⟩ | hfault
    · exact .inl ⟨key, _, hof, hsize, Cipher.Encryptor.ofKey_of_length hsize⟩
    · exact .inr hfault

private def under (settings : Settings) : Session :=
  { start ⟨[]⟩ with settings := some settings }

private theorem standardWidth_pos : 0 < 76 := by decide

private def guarded : Settings :=
  ⟨.production, .info, some (Cipher.Key.toText (List.replicate 32 7)), 76, standardWidth_pos⟩

private def emptied : Settings := ⟨.development, .info, some [], 76, standardWidth_pos⟩

theorem startup_agrees_production :
    guarded.validate = .ok [] ∧
      (∃ text next, (under guarded).encodeSecret [1] = (.ok text, next) ∧
        (next.decodeSecret (some text)).value.1 = .ok [1]) ∧
      ∃ f ∈ emptied.findings, f.field = SettingName.encryptionKey.text := by
  obtain ⟨hcheck, hreads, -, -⟩ := startup_agrees
  have hvalid : guarded.validate = .ok [] := by rfl
  have hfault : (under emptied).getEncryptor.1 = .error (.key (.wrongSize 0)) := rfl
  refine ⟨hvalid, hreads (under guarded) guarded [] rfl rfl (.inl rfl) hvalid rfl [1], ?_⟩
  exact (hcheck (under emptied) emptied rfl (.inl rfl)).1.mpr ⟨_, hfault⟩

end Session

end Keyring
