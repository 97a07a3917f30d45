import Keyring.Proofs.Session.Calls

/-!
# Secrets that survive

Under settings with a valid key, every encryptor and every codec that a session makes has that key,
so an envelope is read back whatever is reset before and after. A codec that is never reset reads
its envelopes whatever becomes of the settings. Without a key nothing is made, and nothing stands in
the way of a key that comes later.
-/

namespace Keyring.Session

open Secret (Codec)

variable {s : Session} {settings : Settings}

namespace Call

/-- A call that leaves the settings alone and puts no codec of its own in use. -/
def isOrdinary : Call → Bool
  | setCodec (some _) => false
  | changeEnvironment _ => false
  | clearSettings => false
  | _ => true

def keepsCodec : Call → Bool
  | setCodec _ => false
  | resetCodec => false
  | _ => true

def changesSettings : Call → Bool
  | changeEnvironment _ => true
  | clearSettings => true
  | _ => false

/-- A codec that is put in use opens what it seals. -/
def IsSound : Call → Prop
  | setCodec (some codec) => codec.Dependable
  | _ => True

end Call

/-- What a session has made has the key of an encryptor, and what it will make has too. -/
structure Serves (e : Cipher.Encryptor) (s : Session) : Prop where
  settings : ∃ settings, s.Sees settings ∧ encryptorOf settings = .ok e
  encryptor : ∀ held, s.encryptor = some held → held.encryptor = e
  codec : ∀ held, s.codec = some held → held.codec = .ofEncryptor e

namespace Serves

variable {e : Cipher.Encryptor}

theorem getEncryptor (h : Serves e s) :
    ∃ held next, s.getEncryptor = (.ok held, next) ∧ held.encryptor = e ∧ Serves e next := by
  obtain ⟨settings, hsees, he⟩ := h.settings
  cases hheld : s.encryptor with
  | some held => exact ⟨held, s, getEncryptor_of_held hheld, h.encryptor held hheld, h⟩
  | none =>
    have hget := getEncryptor_of_key hheld hsees he
    refine ⟨_, _, hget, rfl, ⟨settings, .inl rfl, he⟩, ?_, h.codec⟩
    intro held heq
    cases heq
    rfl

theorem getCodec (h : Serves e s) :
    ∃ held next, s.getCodec = (.ok held, next) ∧ held.codec = .ofEncryptor e ∧ Serves e next := by
  cases hheld : s.codec with
  | some held => exact ⟨held, s, getCodec_of_held hheld, h.codec held hheld, h⟩
  | none =>
    obtain ⟨held, next, hget, hkey, hnext⟩ := h.getEncryptor
    have hmade : s.getCodec = (.ok ⟨.ofEncryptor e, some held.serial⟩, { next with
        codec := some ⟨.ofEncryptor e, some held.serial⟩ }) := by
      simp only [Session.getCodec, hheld, hget, hkey]
    refine ⟨_, _, hmade, rfl, hnext.settings, hnext.encryptor, ?_⟩
    intro held heq
    cases heq
    rfl

theorem lasting : Lasting (Serves e) where
  random h _ := ⟨h.settings, h.encryptor, h.codec⟩
  getEncryptor h := by
    obtain ⟨held, next, hget, -, hnext⟩ := h.getEncryptor
    rwa [hget]
  getCodec h := by
    obtain ⟨held, next, hget, -, hnext⟩ := h.getCodec
    rwa [hget]

theorem setCodec_none (h : Serves e s) : Serves e (s.setCodec none) :=
  ⟨h.settings, h.encryptor, fun _ heq => nomatch heq⟩

theorem step (h : Serves e s) (call : Call) (hcall : call.isOrdinary = true) :
    Serves e (s.step call) := by
  cases call with
  | resetCodec => exact h.setCodec_none
  | setCodec codec =>
    cases codec with
    | none => exact h.setCodec_none
    | some codec => cases hcall
  | resetEncryptor => exact ⟨h.settings, (fun _ heq => nomatch heq), h.codec⟩
  | changeEnvironment changes => cases hcall
  | clearSettings => cases hcall
  | _ => exact lasting.step h rfl

/-- An envelope is read back by every session that serves the same key. -/
theorem decodeSecret_encodeSecret (h : Serves e s) (plaintext : Bytes) :
    ∃ text next, s.encodeSecret plaintext = (.ok text, next) ∧ Serves e next ∧
      ∀ later, Serves e later → (later.decodeSecret (some text)).value.1 = .ok plaintext := by
  obtain ⟨held, made, hget, hcodec, hmade⟩ := h.getCodec
  refine ⟨_, _, encodeSecret_of_getCodec hget plaintext, lasting.random hmade _, ?_⟩
  intro later hlater
  -- another codec may be in use by then, but it stands on an encryptor with the same key
  obtain ⟨held', made', hget', hcodec', -⟩ := hlater.getCodec
  have hopens := Codec.dependable_ofEncryptor e
  rw [decodeSecret_of_getCodec hget', hcodec', hcodec,
    hopens.decodeEnvelope_encodeBytes plaintext made.random]
  rfl

end Serves

structure Unmade (s : Session) : Prop where
  encryptor : s.encryptor = none
  codec : s.codec = none

structure Keyless (s : Session) : Prop extends Unmade s where
  settings : ∃ settings, s.Sees settings ∧ settings.key? = none

namespace Keyless

theorem getEncryptor (h : Keyless s) :
    ∃ fault next, s.getEncryptor = (.error (.key fault), next) ∧ Keyless next := by
  obtain ⟨settings, hsees, hkey⟩ := h.settings
  obtain ⟨fault, hfault⟩ := encryptorOf_of_no_key hkey
  have hget := getEncryptor_of_no_key h.encryptor hsees hfault
  exact ⟨fault, _, hget, ⟨h.encryptor, h.codec⟩, settings, .inl rfl, hkey⟩

theorem getCodec (h : Keyless s) :
    ∃ fault next, s.getCodec = (.error (.key fault), next) ∧ Keyless next := by
  obtain ⟨fault, next, hget, hnext⟩ := h.getEncryptor
  exact ⟨fault, next, by simp only [Session.getCodec, h.codec, hget], hnext⟩

theorem encodeSecret (h : Keyless s) (plaintext : Bytes) :
    ∃ fault next, s.encodeSecret plaintext = (.error (.key fault), next) ∧ Keyless next := by
  obtain ⟨fault, next, hget, hnext⟩ := h.getCodec
  exact ⟨fault, next, by simp only [Session.encodeSecret, hget], hnext⟩

theorem lasting : Lasting Keyless where
  random h _ := ⟨⟨h.encryptor, h.codec⟩, h.settings⟩
  getEncryptor h := by
    obtain ⟨fault, next, hget, hnext⟩ := h.getEncryptor
    rwa [hget]
  getCodec h := by
    obtain ⟨fault, next, hget, hnext⟩ := h.getCodec
    rwa [hget]

theorem step (h : Keyless s) (call : Call) (hcall : call.isOrdinary = true) :
    Keyless (s.step call) := by
  cases call with
  | resetCodec => exact ⟨⟨h.encryptor, rfl⟩, h.settings⟩
  | setCodec codec =>
    cases codec with
    | none => exact ⟨⟨h.encryptor, rfl⟩, h.settings⟩
    | some codec => cases hcall
  | resetEncryptor => exact ⟨⟨rfl, h.codec⟩, h.settings⟩
  | changeEnvironment changes => cases hcall
  | clearSettings => cases hcall
  | _ => exact lasting.step h rfl

end Keyless

def Sound (s : Session) : Prop :=
  ∀ held, s.codec = some held → held.codec.Dependable

theorem Sound.lasting : Lasting Sound where
  random h _ := h
  getEncryptor h := by
    intro held heq
    rw [getEncryptor_keeps_codec] at heq
    exact h held heq
  getCodec {s} h := by
    intro made hmade
    cases hcodec : s.codec with
    | some held =>
      rw [getCodec_of_held hcodec] at hmade
      exact h made hmade
    | none =>
      rcases getCodec_of_none hcodec with ⟨held, next, -, hget⟩ | ⟨fault, next, hget, hnone⟩
      · rw [hget] at hmade
        cases hmade
        exact Codec.dependable_ofEncryptor held.encryptor
      · rw [hget, hnone] at hmade
        cases hmade

theorem Sound.step (h : Sound s) (call : Call) (hcall : call.IsSound) : Sound (s.step call) := by
  cases call with
  | resetCodec => exact fun _ heq => nomatch heq
  | setCodec codec =>
    intro held heq
    cases codec with
    | none => cases heq
    | some codec =>
      cases heq
      exact hcall
  | resetEncryptor => exact h
  | changeEnvironment changes =>
    obtain ⟨environment, hchanged⟩ := s.changeEnvironment_eq changes
    simp only [Session.step, hchanged]
    exact h
  | clearSettings => exact h
  | _ => exact lasting.step h rfl

theorem lasting_codec (held : HeldCodec) : Lasting fun s => s.codec = some held where
  random h _ := h
  getEncryptor {s} h := (getEncryptor_keeps_codec s).trans h
  getCodec h := by rwa [getCodec_of_held h]

theorem step_keeps_codec {held : HeldCodec} (h : s.codec = some held) (call : Call)
    (hcall : call.keepsCodec = true) : (s.step call).codec = some held := by
  cases call with
  | resetCodec => cases hcall
  | setCodec codec => cases hcall
  | resetEncryptor => exact h
  | changeEnvironment changes =>
    obtain ⟨environment, hchanged⟩ := s.changeEnvironment_eq changes
    simp only [step, hchanged]
    exact h
  | clearSettings => exact h
  | _ => exact (lasting_codec held).step h rfl

theorem Leads.keeps_codec {held : HeldCodec} {next later : Session}
    (hl : next.Leads (·.keepsCodec) later) (h : next.codec = some held) :
    later.codec = some held :=
  hl.keeps (fun s => s.codec = some held) (fun h => step_keeps_codec h) h

theorem Unmade.step (h : Unmade s) (call : Call) (hcall : call.changesSettings = true) :
    Unmade (s.step call) := by
  cases call with
  | changeEnvironment changes =>
    obtain ⟨environment, hchanged⟩ := s.changeEnvironment_eq changes
    simp only [Session.step, hchanged]
    exact ⟨h.encryptor, h.codec⟩
  | clearSettings => exact ⟨h.encryptor, h.codec⟩
  | _ => cases hcall

theorem Unmade.serves (h : Unmade s) {key : Bytes} (hsees : s.Sees settings)
    (hkey : settings.key? = some key) : ∃ e, Serves e s := by
  obtain ⟨e, he, -⟩ := encryptorOf_of_key hkey
  refine ⟨e, ⟨settings, hsees, he⟩, ?_, ?_⟩
  · intro held heq
    rw [h.encryptor] at heq
    cases heq
  · intro held heq
    rw [h.codec] at heq
    cases heq

theorem Unmade.sound (h : Unmade s) : Sound s := by
  intro held heq
  rw [h.codec] at heq
  cases heq

theorem getCodec_of_leads {held : HeldCodec} {now next later : Session}
    (hget : now.getCodec = (.ok held, next)) (hl : next.Leads (·.keepsCodec) later) :
    later.getCodec = (.ok held, later) :=
  getCodec_of_held (hl.keeps_codec (codec_of_getCodec hget))

theorem Sound.decodeSecret {now next later : Session} {plaintext : Bytes} {text : Text}
    (h : Sound now) (hencode : now.encodeSecret plaintext = (.ok text, next))
    (hl : next.Leads (·.keepsCodec) later) :
    (later.decodeSecret (some text)).value.1 = .ok plaintext := by
  -- the codec that made the envelope is still in use
  obtain ⟨held, made, hget, hnext, rfl⟩ := encodeSecret_eq_ok hencode
  have hmade : Sound now.getCodec.2 := Sound.lasting.getCodec h
  rw [hget] at hmade
  have hopens : held.codec.Dependable := hmade held (codec_of_getCodec hget)
  have hlater := getCodec_of_held (hl.keeps_codec hnext)
  rw [decodeSecret_of_getCodec hlater, hopens.decodeEnvelope_encodeBytes plaintext made.random]
  rfl

/-- From a session that has made neither encryptor nor codec: under a valid key every envelope is
read back whatever calls come between, and there is a codec. A codec stays the same until it is
reset, and until then reads its envelopes whatever becomes of the settings. Without a key no secret
is encoded and nothing is made, so that one can be encoded as soon as there is a key. -/
theorem secrets_survive (s : Session) (hencryptor : s.encryptor = none) (hcodec : s.codec = none) :
    (∀ settings key, s.Sees settings → settings.key? = some key →
      ∀ now, s.Leads (·.isOrdinary) now →
        (∀ plaintext, ∃ text next, now.encodeSecret plaintext = (.ok text, next) ∧
          ∀ later, next.Leads (·.isOrdinary) later →
            (later.decodeSecret (some text)).value.1 = .ok plaintext) ∧
        ∃ held next, now.getCodec = (.ok held, next)) ∧
    (∀ (now next later : Session) held, now.getCodec = (.ok held, next) →
      next.Leads (·.keepsCodec) later → later.getCodec = (.ok held, later)) ∧
    (∀ now, s.Leads Call.IsSound now → ∀ plaintext text next later,
      now.encodeSecret plaintext = (.ok text, next) → next.Leads (·.keepsCodec) later →
        (later.decodeSecret (some text)).value.1 = .ok plaintext) ∧
    ∀ settings, s.Sees settings → settings.key? = none →
      ∀ now, s.Leads (·.isOrdinary) now → ∀ plaintext,
        ∃ fault next, now.encodeSecret plaintext = (.error (.key fault), next) ∧
          next.encryptor = none ∧ next.codec = none ∧
          ∀ later settings key, next.Leads (·.changesSettings) later → later.Sees settings →
            settings.key? = some key →
              ∀ plaintext, ∃ text last, later.encodeSecret plaintext = (.ok text, last) := by
  have hunmade : Unmade s := ⟨hencryptor, hcodec⟩
  refine ⟨?_, fun now next later held => getCodec_of_leads, ?_, ?_⟩
  · intro settings key hsees hkey now hnow
    obtain ⟨e, he⟩ := hunmade.serves hsees hkey
    have hserves := hnow.keeps (Serves e) Serves.step he
    constructor
    · intro plaintext
      obtain ⟨text, next, hencode, hnext, hreads⟩ := hserves.decodeSecret_encodeSecret plaintext
      refine ⟨text, next, hencode, fun later hl => hreads later ?_⟩
      exact hl.keeps (Serves e) Serves.step hnext
    · obtain ⟨held, next, hget, -⟩ := hserves.getCodec
      exact ⟨held, next, hget⟩
  · intro now hnow plaintext text next later
    exact (hnow.keeps Sound Sound.step hunmade.sound).decodeSecret
  · intro settings hsees hkey now hnow plaintext
    have hkeyless := hnow.keeps Keyless Keyless.step ⟨hunmade, settings, hsees, hkey⟩
    obtain ⟨fault, next, hencode, hnext⟩ := hkeyless.encodeSecret plaintext
    refine ⟨fault, next, hencode, hnext.encryptor, hnext.codec, ?_⟩
    intro later settings key hl hsees hkey plaintext
    have hlater := hl.keeps Unmade Unmade.step hnext.toUnmade
    obtain ⟨e, he⟩ := hlater.serves hsees hkey
    obtain ⟨text, last, hencode, -⟩ := he.decodeSecret_encodeSecret plaintext
    exact ⟨text, last, hencode⟩

private def masterKey : Text := Cipher.Key.toText (List.replicate 32 0)

private def keyVariable : Environment := [("ENCRYPTION_KEY", masterKey)]

private theorem lineWidth_pos : 0 < 76 := by decide

private def keyed : Settings := ⟨.development, .info, some masterKey, 76, lineWidth_pos⟩

private def unkeyed : Settings := ⟨.development, .info, none, 76, lineWidth_pos⟩

private def setKey : List Call :=
  [.changeEnvironment [("ENCRYPTION_KEY", .text masterKey)], .clearSettings]

private def dropKey : List Call :=
  [.changeEnvironment [("ENCRYPTION_KEY", .null)], .clearSettings, .resetEncryptor]

private def fresh : Session := start ⟨[]⟩

theorem secrets_survive_start :
    (∃ text next, (fresh.run setKey).encodeSecret [1] = (.ok text, next) ∧
      ((next.run [.resetCodec, .resetEncryptor]).decodeSecret (some text)).value.1 = .ok [1] ∧
      ((next.run dropKey).decodeSecret (some text)).value.1 = .ok [1]) ∧
    ∃ fault next, fresh.encodeSecret [1] = (.error (.key fault), next) ∧
      ∃ text last, (next.run setKey).encodeSecret [1] = (.ok text, last) := by
  have hkey : keyed.key? = some (List.replicate 32 0) := by decide +kernel
  have hload : Settings.load keyVariable [] = .ok keyed := rfl
  constructor
  · obtain ⟨hkeyed, -, hkept, -⟩ := secrets_survive (fresh.run setKey) rfl rfl
    have hset : (fresh.run setKey).environment = keyVariable := by decide +kernel
    have hsees : (fresh.run setKey).Sees keyed := .inr ⟨rfl, hset ▸ hload⟩
    obtain ⟨text, next, hencode, hreads⟩ :=
      (hkeyed keyed _ hsees hkey _ ⟨[], by simp, rfl⟩).1 [1]
    refine ⟨text, next, hencode, hreads _ ⟨_, by decide, rfl⟩, ?_⟩
    exact hkept _ ⟨[], by simp, rfl⟩ [1] text next _ hencode ⟨_, by decide, rfl⟩
  · obtain ⟨-, -, -, hunkeyed⟩ := secrets_survive fresh rfl rfl
    obtain ⟨fault, next, hencode, -, -, hlater⟩ :=
      hunkeyed unkeyed (.inr ⟨rfl, rfl⟩) rfl fresh ⟨[], by simp, rfl⟩ [1]
    refine ⟨fault, next, hencode, ?_⟩
    have hnext : next = (fresh.encodeSecret [1]).2 := (congrArg Prod.snd hencode).symm
    have hset : (next.run setKey).environment = keyVariable := by
      rw [hnext]
      decide +kernel
    have hsees : (next.run setKey).Sees keyed := .inr ⟨rfl, hset ▸ hload⟩
    exact hlater _ keyed _ ⟨setKey, by decide, rfl⟩ hsees hkey [1]

end Keyring.Session
