import Keyring.Proofs.Secret.Envelope
import Keyring.Secret.SecretBytes

/-!
# Damage is no plaintext

Text in braces is never legacy text, on neither of the two ways that stored text is read. Whatever
has become of an envelope between its braces, it is an error or holds what was sealed for some
envelope.
-/

namespace Keyring

namespace Secret

/-- A service that opens the messages it has issued, each for its plaintext, and refuses all
others. -/
structure Service.Guards (service : Service) (issued : Bytes → Bytes → Prop) : Prop where
  sealed : ∀ message plaintext, issued message plaintext →
    ∃ random, (service.encrypt plaintext random).1 = message
  opens : ∀ message plaintext, issued message plaintext → service.decrypt message = .ok plaintext
  refuses : ∀ message, (∀ plaintext, ¬issued message plaintext) →
    ∃ reason, service.decrypt message = .error (.refused reason)

namespace Codec

variable {codec : Codec} {message plaintext : Bytes} {t u : Text}

theorem decrypt_of_refused {reason : Text}
    (h : codec.service.decrypt message = .error (.refused reason)) :
    codec.decrypt message = ⟨.error .unopened,
      [.opening message, .event (unopenedEvent message.length (.refused reason))]⟩ := by
  rw [decrypt, h]
  rfl

/-! The two ways on which text in braces is read. -/

theorem decodeEnvelope_malformed (h : codec.unwrap (some (braced u)) = none) :
    codec.decodeEnvelope (some (braced u)) =
      ⟨.error .malformed, [.event (malformedEvent (braced u).length)]⟩ := by
  rw [decodeEnvelope, braced_isEmpty, if_neg Bool.false_ne_true, decodeText, h]
  simp only [isBraced_braced, if_true]
  rfl

end Codec

end Secret

namespace SecretBytes

open Secret

variable {codec : Codec} {message : Bytes} {stored : Option Text}

theorem ofText_of_unwrap (h : codec.unwrap stored = some message) (random : Random) :
    ofText codec stored random =
      (fun answer => (answer.map fun _ => ⟨message, codec⟩, random)) <$> codec.decrypt message := by
  rw [ofText, h]
  simp only [map_eq_pure_bind]
  congr 1
  funext answer
  cases answer <;> rfl

theorem ofText_of_fault {fault : DecodeFault} {trace : List Secret.Observation}
    (hunwrap : codec.unwrap stored = none)
    (h : codec.decodeEnvelope stored = ⟨.error fault, trace⟩) (random : Random) :
    ofText codec stored random = ⟨(.error fault, random), trace⟩ := by
  rw [ofText, hunwrap]
  simp only [h]
  exact Traced.ext rfl (List.append_nil trace)

end SecretBytes

namespace Secret.Codec

/-- What may come of text in braces, whether its secret is asked for or kept: it is no envelope, the
service refuses what is in it, or that was issued. -/
inductive BracedOutcome (codec : Codec) (issued : Bytes → Bytes → Prop) (t : Text) : Prop
  | malformed (shape : codec.unwrap (some t) = none)
      (decoded : codec.decodeEnvelope (some t) =
        ⟨.error .malformed, [.event (malformedEvent t.length)]⟩)
      (kept : ∀ random, SecretBytes.ofText codec (some t) random =
        ⟨(.error .malformed, random), [.event (malformedEvent t.length)]⟩)
  | unopened {message : Bytes} {reason : Text} (shape : codec.unwrap (some t) = some message)
      (foreign : ∀ plaintext, ¬issued message plaintext)
      (decoded : codec.decodeEnvelope (some t) = ⟨.error .unopened,
        [.opening message, .event (unopenedEvent message.length (.refused reason))]⟩)
      (kept : ∀ random, SecretBytes.ofText codec (some t) random = ⟨(.error .unopened, random),
        [.opening message, .event (unopenedEvent message.length (.refused reason))]⟩)
  | opened {message plaintext : Bytes} (shape : codec.unwrap (some t) = some message)
      (own : issued message plaintext)
      (decoded : codec.decodeEnvelope (some t) = ⟨.ok plaintext, [.opening message]⟩)
      (kept : ∀ random, SecretBytes.ofText codec (some t) random =
        ⟨(.ok ⟨message, codec⟩, random), [.opening message]⟩)
      (held : SecretBytes.plain ⟨message, codec⟩ = ⟨.ok plaintext, [.opening message]⟩)

variable {codec : Codec} {issued : Bytes → Bytes → Prop}

theorem bracedOutcome (h : codec.service.Guards issued) (u : Text) :
    codec.BracedOutcome issued (braced u) := by
  cases hunwrap : codec.unwrap (some (braced u)) with
  | none =>
    have hdecoded := decodeEnvelope_malformed hunwrap
    exact .malformed hunwrap hdecoded (SecretBytes.ofText_of_fault hunwrap hdecoded)
  | some message =>
    have hdecoded := decodeEnvelope_of_unwrap hunwrap
    have hkept := SecretBytes.ofText_of_unwrap hunwrap
    by_cases hown : ∃ plaintext, issued message plaintext
    · obtain ⟨plaintext, hown⟩ := hown
      have hopened := decrypt_of_ok (h.opens message plaintext hown)
      rw [hopened] at hdecoded hkept
      exact .opened hunwrap hown hdecoded hkept hopened
    · have hforeign := not_exists.mp hown
      obtain ⟨reason, hrefused⟩ := h.refuses message hforeign
      rw [decrypt_of_refused hrefused] at hdecoded hkept
      exact .unopened hunwrap hforeign hdecoded hkept

theorem trace_decodeLegacy (t : Text) :
    (decodeLegacy (some t)).trace = [] ∨
      (decodeLegacy (some t)).trace = [.event (plaintextEvent t.length)] := by
  simp only [decodeLegacy]
  split
  · exact .inl rfl
  · right
    split <;> rfl

theorem BracedOutcome.ne_legacy {t : Text} (h : codec.BracedOutcome issued t) :
    codec.decodeEnvelope (some t) ≠ decodeLegacy (some t) := by
  intro hlegacy
  have htrace := trace_decodeLegacy t
  rw [← hlegacy] at htrace
  cases h with
  | malformed _ decoded _ => simp [decoded, malformedEvent, plaintextEvent] at htrace
  | unopened _ _ decoded _ => simp [decoded] at htrace
  | opened _ _ decoded _ _ => simp [decoded] at htrace

/-- An envelope whose contents have been replaced by anything is an error or holds the plaintext of
a message that was issued. It is never read as legacy text. -/
theorem damage_not_plaintext (codec : Codec) (h : codec.service.Guards issued) :
    (∀ message, codec.wrap message = braced (body (codec.wrap message))) ∧
    ∀ u, codec.BracedOutcome issued (braced u) ∧
      codec.decodeEnvelope (some (braced u)) ≠ decodeLegacy (some (braced u)) := by
  constructor
  · intro message
    have hwrap : codec.wrap message = braced (Base64.encode .standard message) := rfl
    rw [hwrap, body_braced]
  · intro u
    have houtcome := bracedOutcome h u
    exact ⟨houtcome, houtcome.ne_legacy⟩

end Secret.Codec

namespace Secret

def Service.salted : Service where
  shown := "Salted()"
  encrypt plaintext random :=
    let drawn := random.next 1
    (0 :: drawn.1.headD 0 :: plaintext, drawn.2)
  decrypt
    | 0 :: _ :: plaintext => .ok plaintext
    | _ => .error (.refused "no mark")

private def Salted (message plaintext : Bytes) : Prop :=
  ∃ salt, message = 0 :: salt :: plaintext

/-- The bits that are left over at the end of base64 may be any, and no bytes are none. -/
theorem Codec.damage_not_plaintext_salted :
    Service.salted.Guards Salted ∧
      (Codec.mk .salted 2).BracedOutcome Salted (braced ("AAF=" : Text)) ∧
      ((Codec.mk .salted 2).decodeEnvelope (some (braced ("AAF=" : Text)))).value = .ok [] ∧
      (Codec.mk .salted 2).BracedOutcome Salted (braced []) ∧
      ((Codec.mk .salted 2).decodeEnvelope (some (braced []))).value = .error .malformed := by
  have hguards : Service.salted.Guards Salted := by
    constructor
    · rintro message plaintext ⟨salt, rfl⟩
      exact ⟨⟨[salt]⟩, rfl⟩
    · rintro message plaintext ⟨salt, rfl⟩
      rfl
    · intro message hforeign
      simp only [Service.salted]
      split
      next salt plaintext => exact absurd ⟨salt, rfl⟩ (hforeign plaintext)
      next => exact ⟨_, rfl⟩
  have hdamage := (damage_not_plaintext ⟨.salted, 2⟩ hguards).2
  exact ⟨hguards, (hdamage _).1, rfl, (hdamage _).1, rfl⟩

end Secret

end Keyring
