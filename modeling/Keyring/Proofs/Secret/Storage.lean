import Keyring.Proofs.Secret.Damage

/-!
# Secrets survive storage

Whichever way a secret is built, the codec opens its sealed bytes. So a secret that is stored and
read again, as text or as bytes, is the one it was: once sealed it is never sealed again.
-/

namespace Keyring

namespace Secret.Codec

/-- A codec that opens whatever it seals, and nothing shorter than what its service seals. -/
structure Dependable (codec : Codec) : Prop where
  opens : ∀ plaintext random,
    codec.service.decrypt (codec.service.encrypt plaintext random).1 = .ok plaintext
  long : ∀ message plaintext, codec.service.decrypt message = .ok plaintext →
    max 1 codec.minimum ≤ message.length

/-- The codec with another way of sealing. -/
def sealingBy (codec : Codec) (encrypt : Bytes → Random → Bytes × Random) : Codec :=
  { codec with service := { codec.service with encrypt } }

variable {codec : Codec} {message plaintext : Bytes}

theorem tryDecrypt_of_ok (h : codec.service.decrypt message = .ok plaintext) :
    codec.tryDecrypt message = ⟨.ok (some plaintext), [.opening message]⟩ := by
  rw [tryDecrypt, h]
  rfl

theorem opens_of_decrypt (h : (codec.decrypt message).value = .ok plaintext) :
    codec.service.decrypt message = .ok plaintext := by
  rw [decrypt, Traced.value_bind] at h
  split at h
  next hopen =>
    cases h
    exact hopen
  next =>
    split at h <;> cases h

theorem opens_of_tryDecrypt (h : (codec.tryDecrypt message).value = .ok (some plaintext)) :
    codec.service.decrypt message = .ok plaintext := by
  rw [tryDecrypt, Traced.value_bind] at h
  split at h
  next hopen =>
    cases h
    exact hopen
  next =>
    split at h <;> cases h

end Secret.Codec

open Secret

namespace SecretBytes

inductive Built (codec : Codec) (s : SecretBytes) : Prop
  | ofBytes {data : Option Bytes} {random random' : Random}
      (h : (SecretBytes.ofBytes codec data random).value = (.ok s, random'))
  | ofText {stored : Option Text} {random random' : Random}
      (h : (SecretBytes.ofText codec stored random).value = (.ok s, random'))

def Opens (codec : Codec) (s : SecretBytes) : Prop :=
  s.codec = codec ∧ ∃ plaintext, codec.service.decrypt s.sealed = .ok plaintext

section

variable {codec : Codec} {s : SecretBytes} {random random' : Random}

theorem opens_ofPlain (hc : codec.Dependable) (plaintext : Bytes) (random : Random) :
    Opens codec (ofPlain codec plaintext random).1 :=
  ⟨rfl, plaintext, hc.opens plaintext random⟩

theorem opens_of_ofBytes (hc : codec.Dependable) {data : Option Bytes}
    (h : (ofBytes codec data random).value = (.ok s, random')) : Opens codec s := by
  simp only [ofBytes] at h
  split at h
  · cases h
    exact opens_ofPlain hc [] random
  · rw [Traced.value_bind] at h
    split at h
    next => cases h
    next plaintext hopen =>
      cases h
      exact ⟨rfl, plaintext, Codec.opens_of_tryDecrypt hopen⟩
    next =>
      cases h
      exact opens_ofPlain hc _ random

theorem opens_of_ofText (hc : codec.Dependable) {stored : Option Text}
    (h : (ofText codec stored random).value = (.ok s, random')) : Opens codec s := by
  rw [ofText] at h
  split at h
  next message _ =>
    rw [Traced.value_bind] at h
    split at h
    next => cases h
    next plaintext hopen =>
      cases h
      exact ⟨rfl, plaintext, Codec.opens_of_decrypt hopen⟩
  next =>
    rw [Traced.value_bind] at h
    split at h
    next => cases h
    next plaintext _ =>
      cases h
      exact opens_ofPlain hc plaintext random

theorem Built.opens (hc : codec.Dependable) (h : Built codec s) : Opens codec s := by
  cases h with
  | ofBytes h => exact opens_of_ofBytes hc h
  | ofText h => exact opens_of_ofText hc h

/-! Storing and reading. -/

theorem unwrap_toText (hlen : max 1 codec.minimum ≤ s.sealed.length) :
    codec.unwrap (some s.toText) = some s.sealed :=
  unwrapEnvelope_braced hlen List.mem_cons_self (.refl _)

theorem Opens.ofText_toText (h : Opens codec s) (hlen : max 1 codec.minimum ≤ s.sealed.length)
    (random : Random) :
    ofText codec (some s.toText) random = ⟨(.ok s, random), [.opening s.sealed]⟩ := by
  obtain ⟨rfl, plaintext, hopen⟩ := h
  rw [ofText_of_unwrap (unwrap_toText hlen), Codec.decrypt_of_ok hopen]
  rfl

theorem Opens.ofBytes_sealed (h : Opens codec s) (hne : s.sealed ≠ []) (random : Random) :
    ofBytes codec (some s.sealed) random = ⟨(.ok s, random), [.opening s.sealed]⟩ := by
  obtain ⟨rfl, plaintext, hopen⟩ := h
  have hempty : s.sealed.isEmpty = false := List.isEmpty_eq_false_iff.mpr hne
  simp only [ofBytes, Option.getD_some, hempty, Bool.false_eq_true, if_false,
    Codec.tryDecrypt_of_ok hopen]
  rfl

theorem Opens.decodeEnvelope_toText (h : Opens codec s)
    (hlen : max 1 codec.minimum ≤ s.sealed.length) :
    codec.decodeEnvelope (some s.toText) = s.plain := by
  obtain ⟨rfl, -⟩ := h
  exact Codec.decodeEnvelope_of_unwrap (unwrap_toText hlen)

/-- The text that takes the place of stored text when the secret is saved. -/
def upgrade (codec : Codec) (stored : Option Text) (random : Random) :
    Traced Secret.Observation (Except DecodeFault Text × Random) :=
  (fun answer => (answer.1.map toText, answer.2)) <$> ofText codec stored random

theorem Opens.upgrade_toText (h : Opens codec s) (hlen : max 1 codec.minimum ≤ s.sealed.length)
    (random : Random) :
    upgrade codec (some s.toText) random = ⟨(.ok s.toText, random), [.opening s.sealed]⟩ := by
  rw [upgrade, h.ofText_toText hlen]
  rfl

theorem exists_of_upgrade (hc : codec.Dependable) {stored : Option Text} {text : Text}
    (h : (upgrade codec stored random).value = (.ok text, random')) :
    ∃ s, Opens codec s ∧ text = s.toText := by
  obtain ⟨htext, -⟩ : (ofText codec stored random).value.1.map toText = .ok text ∧
      (ofText codec stored random).value.2 = random' := Prod.mk.inj h
  cases hread : (ofText codec stored random).value.1 with
  | error fault =>
    rw [hread] at htext
    cases htext
  | ok s =>
    rw [hread] at htext
    cases htext
    exact ⟨s, opens_of_ofText hc (Prod.ext hread rfl), rfl⟩

/-- A secret that was built with a check opens, and comes back from its text and from its sealed
bytes with nothing drawn; its text holds what it holds. The text that takes the place of stored text
is kept the next time, and no way of sealing has a part in that. -/
theorem storage_stable (hc : codec.Dependable) :
    (∀ s, Built codec s →
      (∃ plaintext, s.plain.value = .ok plaintext) ∧
      (∀ random, ofText codec (some s.toText) random =
        ⟨(.ok s, random), [.opening s.sealed]⟩) ∧
      (∀ random, ofBytes codec (some s.sealed) random =
        ⟨(.ok s, random), [.opening s.sealed]⟩) ∧
      codec.decodeEnvelope (some s.toText) = s.plain) ∧
    ∀ stored random text random', (upgrade codec stored random).value = (.ok text, random') →
      ∃ message,
        (∀ random, upgrade codec (some text) random =
          ⟨(.ok text, random), [.opening message]⟩) ∧
        ∀ encrypt random, upgrade (codec.sealingBy encrypt) (some text) random =
          ⟨(.ok text, random), [.opening message]⟩ := by
  constructor
  · intro s hs
    have hopens := hs.opens hc
    obtain ⟨hcodec, plaintext, hopen⟩ := hs.opens hc
    have hlen := hc.long s.sealed plaintext hopen
    have hne : s.sealed ≠ [] := List.ne_nil_of_length_pos (by omega)
    refine ⟨⟨plaintext, ?_⟩, ?_, ?_, ?_⟩
    · rw [plain, hcodec, Codec.decrypt_of_ok hopen]
    · exact hopens.ofText_toText hlen
    · exact hopens.ofBytes_sealed hne
    · exact hopens.decodeEnvelope_toText hlen
  · intro stored random text random' h
    obtain ⟨s, hopens, rfl⟩ := exists_of_upgrade hc h
    have ⟨_, plaintext, hopen⟩ := hopens
    have hlen := hc.long s.sealed plaintext hopen
    refine ⟨s.sealed, hopens.upgrade_toText hlen, fun encrypt random => ?_⟩
    -- the same sealed bytes under a codec that seals another way, which opens them too
    have hother : Opens (codec.sealingBy encrypt) ⟨s.sealed, codec.sealingBy encrypt⟩ :=
      ⟨rfl, plaintext, hopen⟩
    exact hother.upgrade_toText hlen random

end

theorem storage_stable_salted :
    (Codec.mk .salted 2).Dependable ∧
      (ofText ⟨.salted, 2⟩ (some ("aGk=" : Text)) ⟨[7]⟩).value =
        (.ok ⟨[0, 7, 0x68, 0x69], ⟨.salted, 2⟩⟩, ⟨[]⟩) ∧
      (ofText ⟨.salted, 2⟩ (some ("\x7bAAdoaQ==\x7d" : Text)) ⟨[8]⟩).value =
        (.ok ⟨[0, 7, 0x68, 0x69], ⟨.salted, 2⟩⟩, ⟨[8]⟩) ∧
      (upgrade ⟨.salted, 2⟩ (some ("\x7bAAdoaQ==\x7d" : Text)) ⟨[8]⟩).value =
        (.ok "\x7bAAdoaQ==\x7d", ⟨[8]⟩) := by
  have hc : (Codec.mk .salted 2).Dependable := by
    constructor
    · intro plaintext random
      rfl
    · intro message plaintext hopen
      simp only [Service.salted] at hopen
      split at hopen
      next salt plaintext => simp
      next => cases hopen
  have hread : (ofText ⟨.salted, 2⟩ (some ("aGk=" : Text)) ⟨[7]⟩).value =
      (.ok ⟨[0, 7, 0x68, 0x69], ⟨.salted, 2⟩⟩, ⟨[]⟩) := rfl
  have hsaved : (upgrade ⟨.salted, 2⟩ (some ("aGk=" : Text)) ⟨[7]⟩).value =
      (.ok "\x7bAAdoaQ==\x7d", ⟨[]⟩) := rfl
  obtain ⟨hbuilt, hupgrade⟩ := storage_stable hc
  obtain ⟨message, hagain, -⟩ := hupgrade _ _ _ _ hsaved
  refine ⟨hc, hread, ?_, ?_⟩
  · exact congrArg Traced.value ((hbuilt _ (.ofText hread)).2.1 ⟨[8]⟩)
  · exact congrArg Traced.value (hagain ⟨[8]⟩)

end SecretBytes

end Keyring
