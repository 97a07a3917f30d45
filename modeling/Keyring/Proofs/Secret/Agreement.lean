import Keyring.Proofs.Secret.Storage

/-!
# Both ways of reading agree

Stored text is read for its secret, or to keep the secret sealed. The second way looks at the text
on its own before it asks the first, yet a secret that is kept holds what the text is read for, and
text that cannot be read cannot be kept, for the same reason.
-/

namespace Keyring

namespace Secret.Codec

variable {codec : Codec} {stored : Option Text} {message : Bytes}

theorem decodeEnvelope_eq_decrypt (h : codec.unwrap stored = some message) :
    codec.decodeEnvelope stored = codec.decrypt message := by
  cases stored with
  | none => cases h
  | some t =>
    obtain ⟨inner, -, -, rfl⟩ := isCandidate_of_unwrapEnvelope h
    exact decodeEnvelope_of_unwrap h

end Secret.Codec

open Secret

namespace SecretBytes

variable {codec : Codec} {stored : Option Text} {plaintext : Bytes}

/-- What is kept of stored text that was read for a plaintext: the sealed bytes of an envelope as
they are, and of other text the plaintext under a new seal. -/
def kept (codec : Codec) (stored : Option Text) (random : Random) (plaintext : Bytes) :
    SecretBytes × Random :=
  match codec.unwrap stored with
  | some message => (⟨message, codec⟩, random)
  | none => ofPlain codec plaintext random

def keep (codec : Codec) (stored : Option Text) (random : Random) :
    Except DecodeFault Bytes → Except DecodeFault SecretBytes × Random
  | .error fault => (.error fault, random)
  | .ok plaintext =>
    (.ok (kept codec stored random plaintext).1, (kept codec stored random plaintext).2)

/-- To keep the secret of a text is to read the text and to keep what was read. -/
theorem ofText_eq_keep (codec : Codec) (stored : Option Text) (random : Random) :
    ofText codec stored random = keep codec stored random <$> codec.decodeEnvelope stored := by
  cases hunwrap : codec.unwrap stored with
  | some message =>
    rw [ofText_of_unwrap hunwrap, Codec.decodeEnvelope_eq_decrypt hunwrap]
    congr 1
    funext answer
    cases answer with
    | error fault => rfl
    | ok plaintext => simp only [keep, kept, hunwrap, Except.map]
  | none =>
    rw [ofText, hunwrap]
    simp only [map_eq_pure_bind]
    congr 1
    funext answer
    cases answer with
    | error fault => rfl
    | ok plaintext => simp only [keep, kept, hunwrap]

theorem keep_eq_error_iff {random : Random} {answer : Except DecodeFault Bytes}
    {fault : DecodeFault} :
    (keep codec stored random answer).1 = .error fault ↔ answer = .error fault := by
  cases answer with
  | error other => rw [keep, Except.error.injEq, Except.error.injEq]
  | ok plaintext =>
    constructor
    · intro h
      cases h
    · intro h
      cases h

/-- The codec opens what was kept for what was read. Of an envelope these are the same sealed bytes;
of other text it is what the codec has just sealed. -/
theorem plain_kept
    (hopen : ∀ p random, codec.service.decrypt (codec.service.encrypt p random).1 = .ok p)
    (hread : (codec.decodeEnvelope stored).value = .ok plaintext) (random : Random) :
    (kept codec stored random plaintext).1.plain =
      ⟨.ok plaintext, [.opening (kept codec stored random plaintext).1.sealed]⟩ := by
  cases hunwrap : codec.unwrap stored with
  | some message =>
    rw [Codec.decodeEnvelope_eq_decrypt hunwrap] at hread
    simp only [kept, hunwrap]
    exact Codec.decrypt_of_ok (Codec.opens_of_decrypt hread)
  | none =>
    simp only [kept, hunwrap]
    exact Codec.decrypt_of_ok (hopen plaintext random)

/-- A text is read for its secret or kept with the same things seen. It cannot be kept exactly if it
cannot be read, for the same reason, and what is kept of it holds what it is read for. -/
theorem read_paths_agree (codec : Codec)
    (hopen : ∀ p random, codec.service.decrypt (codec.service.encrypt p random).1 = .ok p)
    (stored : Option Text) (random : Random) :
    (ofText codec stored random).trace = (codec.decodeEnvelope stored).trace ∧
    (∀ fault, (ofText codec stored random).value.1 = .error fault ↔
      (codec.decodeEnvelope stored).value = .error fault) ∧
    (∀ s random', (ofText codec stored random).value = (.ok s, random') →
      s.plain.value = (codec.decodeEnvelope stored).value) ∧
    ∀ plaintext, (codec.decodeEnvelope stored).value = .ok plaintext →
      ∃ s random', (ofText codec stored random).value = (.ok s, random') ∧
        s.plain = ⟨.ok plaintext, [.opening s.sealed]⟩ := by
  have hvalue : (ofText codec stored random).value =
      keep codec stored random (codec.decodeEnvelope stored).value := by
    rw [ofText_eq_keep]
    rfl
  refine ⟨?_, ?_, ?_, ?_⟩
  · rw [ofText_eq_keep]
    exact List.append_nil _
  · intro fault
    rw [hvalue]
    exact keep_eq_error_iff
  · intro s random' hkept
    rw [hvalue] at hkept
    cases hread : (codec.decodeEnvelope stored).value with
    | error fault =>
      rw [hread] at hkept
      cases hkept
    | ok plaintext =>
      rw [hread] at hkept
      cases hkept
      rw [plain_kept hopen hread]
  · intro plaintext hread
    rw [hvalue, hread]
    exact ⟨_, _, rfl, plain_kept hopen hread random⟩

theorem read_paths_agree_salted :
    (∀ p random, Service.salted.decrypt (Service.salted.encrypt p random).1 = .ok p) ∧
      (ofText ⟨.salted, 2⟩ (some ("aGk=" : Text)) ⟨[7]⟩).value =
        (.ok ⟨[0, 7, 0x68, 0x69], ⟨.salted, 2⟩⟩, ⟨[]⟩) ∧
      (plain ⟨[0, 7, 0x68, 0x69], ⟨.salted, 2⟩⟩).value =
        ((Codec.mk .salted 2).decodeEnvelope (some ("aGk=" : Text))).value ∧
      (ofText ⟨.salted, 2⟩ (some ("\x7bAgI=\x7d" : Text)) ⟨[7]⟩).value.1 = .error .unopened ∧
      (ofText ⟨.salted, 2⟩ (some ("\x7bA\x7d" : Text)) ⟨[7]⟩).value.1 = .error .malformed := by
  have hopen : ∀ p random, Service.salted.decrypt (Service.salted.encrypt p random).1 = .ok p :=
    fun _ _ => rfl
  have h := read_paths_agree ⟨.salted, 2⟩ hopen
  refine ⟨hopen, rfl, ?_, ?_, ?_⟩
  · exact (h (some ("aGk=" : Text)) ⟨[7]⟩).2.2.1 _ _ rfl
  · exact ((h (some ("\x7bAgI=\x7d" : Text)) ⟨[7]⟩).2.1 _).mpr rfl
  · exact ((h (some ("\x7bA\x7d" : Text)) ⟨[7]⟩).2.1 _).mpr rfl

end SecretBytes

end Keyring
