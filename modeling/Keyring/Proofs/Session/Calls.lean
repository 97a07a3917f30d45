import Keyring.Proofs.Secret.MasterKey
import Keyring.Session

/-!
# Calls of a session

The calls by which a program handles secrets, each with the session that it leaves behind, and what
the encryptor and the codec in use are made from. Whatever a call does to a session, it does by
making what is missing, by drawing random bytes or by a reset.
-/

namespace Keyring

namespace Settings

variable {settings : Settings}

def key? (settings : Settings) : Option Bytes :=
  settings.encryptionKey.bind fun text => (Cipher.Key.ofText text).toOption

theorem text_of_key {key : Bytes} (h : settings.key? = some key) :
    ∃ text, settings.encryptionKey = some text ∧ Cipher.Key.ofText text = .ok key := by
  obtain ⟨text, htext, hread⟩ := Option.bind_eq_some_iff.mp h
  refine ⟨text, htext, ?_⟩
  cases hof : Cipher.Key.ofText text with
  | error fault =>
    rw [hof] at hread
    cases hread
  | ok read =>
    rw [hof] at hread
    cases hread
    rfl

theorem fault_of_no_key (h : settings.key? = none) :
    settings.encryptionKey = none ∨
      ∃ text fault, settings.encryptionKey = some text ∧
        Cipher.Key.ofText text = .error fault := by
  cases htext : settings.encryptionKey with
  | none => exact .inl rfl
  | some text =>
    cases hof : Cipher.Key.ofText text with
    | error fault => exact .inr ⟨text, fault, rfl, hof⟩
    | ok key =>
      rw [key?, htext, Option.bind_some, hof] at h
      cases h

end Settings

namespace Session

variable {s next later : Session} {settings : Settings}

theorem encryptorOf_of_key {key : Bytes} (h : settings.key? = some key) :
    ∃ e, encryptorOf settings = .ok e ∧ e.key = key := by
  obtain ⟨text, htext, hof⟩ := Settings.text_of_key h
  refine ⟨⟨key, Cipher.Key.length_of_ofText hof⟩, ?_, rfl⟩
  simp only [encryptorOf, htext, hof]
  exact Cipher.Encryptor.ofKey_of_length _

theorem encryptorOf_of_no_key (h : settings.key? = none) :
    ∃ fault, encryptorOf settings = .error fault := by
  rcases Settings.fault_of_no_key h with htext | ⟨text, fault, htext, hof⟩
  · exact ⟨.notConfigured, by simp only [encryptorOf, htext]⟩
  · exact ⟨fault, by simp only [encryptorOf, htext, hof]⟩

/-- The settings are those that a session has loaded, or else would load now. -/
def Sees (s : Session) (settings : Settings) : Prop :=
  s.settings = some settings ∨
    s.settings = none ∧ Settings.load s.environment [] = .ok settings

theorem Sees.getSettings (h : s.Sees settings) :
    s.getSettings = (.ok settings, { s with settings := some settings }) := by
  obtain ⟨environment, loaded, encryptor, codec, made, random⟩ := s
  rcases h with rfl | ⟨rfl, hload⟩
  · rfl
  · simp only [Session.getSettings, hload]

theorem getEncryptor_of_key {e : Cipher.Encryptor} (h : s.encryptor = none)
    (hsees : s.Sees settings) (he : encryptorOf settings = .ok e) :
    s.getEncryptor = (.ok ⟨e, s.made⟩, { s with
      settings := some settings, encryptor := some ⟨e, s.made⟩, made := s.made + 1 }) := by
  simp only [getEncryptor, h, hsees.getSettings, he]

theorem getEncryptor_of_no_key {fault : Cipher.KeyFault} (h : s.encryptor = none)
    (hsees : s.Sees settings) (hfault : encryptorOf settings = .error fault) :
    s.getEncryptor = (.error (.key fault), { s with settings := some settings }) := by
  simp only [getEncryptor, h, hsees.getSettings, hfault]

theorem getEncryptor_of_held {held : Held} (h : s.encryptor = some held) :
    s.getEncryptor = (.ok held, s) := by
  simp only [getEncryptor, h]

theorem getCodec_of_held {held : HeldCodec} (h : s.codec = some held) :
    s.getCodec = (.ok held, s) := by
  simp only [getCodec, h]

theorem getSettings_keeps_codec (s : Session) : s.getSettings.2.codec = s.codec := by
  unfold getSettings
  split
  · rfl
  · split <;> rfl

theorem getEncryptor_keeps_codec (s : Session) : s.getEncryptor.2.codec = s.codec := by
  have hsettings := getSettings_keeps_codec s
  unfold getEncryptor
  split
  next => rfl
  next =>
    split
    next hget => rwa [hget] at hsettings
    next hget =>
      rw [hget] at hsettings
      split <;> exact hsettings

/-- A codec that was not in use is made on the encryptor, and stays unmade with it. -/
theorem getCodec_of_none (h : s.codec = none) :
    (∃ held next, s.getEncryptor = (.ok held, next) ∧
      s.getCodec = (.ok ⟨.ofEncryptor held.encryptor, some held.serial⟩,
        { next with codec := some ⟨.ofEncryptor held.encryptor, some held.serial⟩ })) ∨
    ∃ fault next, s.getCodec = (.error fault, next) ∧ next.codec = none := by
  have hkeeps := getEncryptor_keeps_codec s
  rcases hget : s.getEncryptor with ⟨fault | held, next⟩
  · rw [hget, h] at hkeeps
    exact .inr ⟨fault, next, by simp only [getCodec, h, hget], hkeeps⟩
  · exact .inl ⟨held, next, rfl, by simp only [getCodec, h, hget]⟩

theorem codec_of_getCodec {held : HeldCodec} (h : s.getCodec = (.ok held, next)) :
    next.codec = some held := by
  cases hcodec : s.codec with
  | some held =>
    rw [getCodec_of_held hcodec] at h
    cases h
    exact hcodec
  | none =>
    rcases getCodec_of_none hcodec with ⟨_, _, -, hget⟩ | ⟨_, _, hget, -⟩
    · rw [hget] at h
      cases h
      rfl
    · rw [hget] at h
      cases h

theorem changeEnvironment_eq (s : Session) (changes : List (Text × Datum)) :
    ∃ environment, (s.changeEnvironment changes).2 = { s with environment } := by
  induction changes generalizing s with
  | nil => exact ⟨s.environment, rfl⟩
  | cons change rest ih =>
    unfold changeEnvironment
    split
    next => exact ih _
    next => exact ⟨s.environment, rfl⟩

theorem encodeSecret_of_getCodec {held : HeldCodec} (h : s.getCodec = (.ok held, next))
    (plaintext : Bytes) :
    s.encodeSecret plaintext =
      (.ok (held.codec.encodeBytes plaintext next.random).1,
        { next with random := (held.codec.encodeBytes plaintext next.random).2 }) := by
  simp only [encodeSecret, h]

theorem encodeSecret_eq_ok {plaintext : Bytes} {text : Text}
    (h : s.encodeSecret plaintext = (.ok text, next)) :
    ∃ held made, s.getCodec = (.ok held, made) ∧ next.codec = some held ∧
      (held.codec.encodeBytes plaintext made.random).1 = text := by
  rcases hget : s.getCodec with ⟨fault | held, made⟩
  · simp only [encodeSecret, hget] at h
    cases h
  · rw [encodeSecret_of_getCodec hget] at h
    cases h
    have hheld := codec_of_getCodec hget
    exact ⟨held, made, rfl, hheld, rfl⟩

theorem decodeSecret_of_getCodec {held : HeldCodec} (h : s.getCodec = (.ok held, next))
    (stored : Option Text) :
    (s.decodeSecret stored).value.1 = ofDecoded (held.codec.decodeEnvelope stored).value := by
  unfold decodeSecret
  split
  next hempty =>
    -- empty text needs no codec, and every codec reads it as the empty secret
    cases stored with
    | none => rfl
    | some t =>
      simp only [Option.getD_some] at hempty
      simp only [Secret.Codec.decodeEnvelope, hempty]
      rfl
  next => simp only [h, Traced.value_bind, Traced.value_pure]

inductive Call where
  | encode (plaintext : Bytes)
  | decode (stored : Option Text)
  | looksEncoded (stored : Option Text)
  | getCodec
  | getEncryptor
  | resetCodec
  | setCodec (codec : Option Secret.Codec)
  | resetEncryptor
  | changeEnvironment (changes : List (Text × Datum))
  | clearSettings

/-- The call uses what a session keeps, making what is missing, and resets nothing. -/
def Call.isUse : Call → Bool
  | encode _ | decode _ | looksEncoded _ | getCodec | getEncryptor => true
  | resetCodec | setCodec _ | resetEncryptor | changeEnvironment _ | clearSettings => false

def step (s : Session) : Call → Session
  | .encode plaintext => (s.encodeSecret plaintext).2
  | .decode stored => (s.decodeSecret stored).value.2
  | .looksEncoded _ => s
  | .getCodec => s.getCodec.2
  | .getEncryptor => s.getEncryptor.2
  | .resetCodec => s.resetCodec
  | .setCodec codec => s.setCodec codec
  | .resetEncryptor => s.resetEncryptor
  | .changeEnvironment changes => (s.changeEnvironment changes).2
  | .clearSettings => s.clearSettings

def run (s : Session) (calls : List Call) : Session :=
  calls.foldl step s

/-- Allowed calls lead from one session to another. -/
def Leads (allowed : Call → Prop) (s later : Session) : Prop :=
  ∃ calls, (∀ call ∈ calls, allowed call) ∧ s.run calls = later

theorem Leads.keeps {allowed : Call → Prop} (hl : s.Leads allowed later) (kept : Session → Prop)
    (hstep : ∀ {s}, kept s → ∀ call, allowed call → kept (s.step call)) (h : kept s) :
    kept later := by
  obtain ⟨calls, hcalls, rfl⟩ := hl
  induction calls generalizing s with
  | nil => exact h
  | cons call rest ih =>
    have hfirst := hstep h call (hcalls call List.mem_cons_self)
    exact ih hfirst fun other hm => hcalls other (List.mem_cons_of_mem call hm)

/-- A property of sessions that making what is missing and drawing random bytes keep. -/
structure Lasting (kept : Session → Prop) : Prop where
  random : ∀ {s}, kept s → ∀ random, kept { s with random }
  getEncryptor : ∀ {s}, kept s → kept s.getEncryptor.2
  getCodec : ∀ {s}, kept s → kept s.getCodec.2

namespace Lasting

variable {kept : Session → Prop}

theorem encodeSecret (hk : Lasting kept) (h : kept s) (plaintext : Bytes) :
    kept (s.encodeSecret plaintext).2 := by
  have hcodec := hk.getCodec h
  unfold Session.encodeSecret
  split
  next heq => rwa [heq] at hcodec
  next heq =>
    rw [heq] at hcodec
    exact hk.random hcodec _

theorem decodeSecret (hk : Lasting kept) (h : kept s) (stored : Option Text) :
    kept (s.decodeSecret stored).value.2 := by
  have hcodec := hk.getCodec h
  unfold Session.decodeSecret
  split
  next => exact h
  next =>
    split
    next heq => rwa [heq] at hcodec
    next heq => rwa [heq] at hcodec

theorem step (hk : Lasting kept) (h : kept s) {call : Call} (hcall : call.isUse = true) :
    kept (s.step call) := by
  cases call with
  | encode plaintext => exact hk.encodeSecret h plaintext
  | decode stored => exact hk.decodeSecret h stored
  | looksEncoded stored => exact h
  | getCodec => exact hk.getCodec h
  | getEncryptor => exact hk.getEncryptor h
  | resetCodec | setCodec _ | resetEncryptor | changeEnvironment _ | clearSettings => cases hcall

end Lasting

end Session

end Keyring
