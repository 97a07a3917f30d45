import Keyring.Proofs.Cipher.Opening
import Keyring.Proofs.Secret.Storage

/-!
# The codec of a master key

A stored key is read back if it has the right size and refused otherwise. A codec that stands on an
encryptor opens all it seals, and what it seals is long enough to pass for an envelope.
-/

namespace Keyring

theorem Base64.decodeStrict_encode (b : Bytes) :
    decodeStrict (encode .standard b) = .ok b := by
  rw [encode_eq, decodeStrict_digits (sextetsOf_length_mod b), bytesOf_sextetsOf]

namespace Cipher

namespace Key

theorem ofText_cases (t : Text) :
    (∃ key, ofText t = .ok key ∧ key.length = keySize) ∨
    (∃ fault, ofText t = .error (.notBase64 fault)) ∨
    ∃ size, ofText t = .error (.wrongSize size) ∧ size ≠ keySize := by
  cases hread : Base64.decodeStrict t with
  | error fault =>
    right
    left
    exact ⟨fault, by rw [ofText, hread]⟩
  | ok key =>
    by_cases hsize : key.length = keySize
    · left
      refine ⟨key, ?_, hsize⟩
      simp only [ofText, hread, if_pos hsize]
    · right
      right
      refine ⟨key.length, ?_, hsize⟩
      simp only [ofText, hread, if_neg hsize]

theorem length_of_ofText {t : Text} {key : Bytes} (h : ofText t = .ok key) :
    key.length = keySize := by
  rcases ofText_cases t with ⟨other, hother, hsize⟩ | ⟨fault, hfault⟩ | ⟨size, hfault, -⟩
  · rw [h] at hother
    cases hother
    exact hsize
  · rw [h] at hfault
    cases hfault
  · rw [h] at hfault
    cases hfault

theorem ofText_toText (key : Bytes) :
    ofText (toText key) =
      if key.length = keySize then .ok key else .error (.wrongSize key.length) := by
  rw [ofText, toText, Base64.decodeStrict_encode]

end Key

end Cipher

namespace Secret.Codec

theorem dependable_ofEncryptor (e : Cipher.Encryptor) : (ofEncryptor e).Dependable := by
  constructor
  · intro plaintext random
    simp only [ofEncryptor, Service.ofEncryptor, e.decrypt_encrypt]
  · intro message plaintext hopen
    simp only [ofEncryptor, Service.ofEncryptor] at hopen
    split at hopen
    next hopened =>
      have hlong := e.overhead_le_of_decrypt _ _ hopened
      have hone : 1 ≤ Cipher.overhead := by decide
      simp only [ofEncryptor, standardMinimum]
      omega
    next => cases hopen

/-- A secret is read back from its envelope. -/
theorem Dependable.decodeEnvelope_encodeBytes {codec : Codec} (hc : codec.Dependable)
    (plaintext : Bytes) (random : Random) :
    (codec.decodeEnvelope (some (codec.encodeBytes plaintext random).1)).value = .ok plaintext := by
  have hopen := hc.opens plaintext random
  have hlong := hc.long _ _ hopen
  have hread := decodeEnvelope_braced hlong List.mem_cons_self (Base64.Breaks.refl _)
  exact (congrArg Traced.value hread).trans (decrypt_value hopen)

end Secret.Codec

end Keyring
