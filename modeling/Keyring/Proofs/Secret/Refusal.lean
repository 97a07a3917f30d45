import Keyring.Proofs.Base64.Acceptance
import Keyring.Proofs.Secret.Damage
import Keyring.Proofs.Secret.Legacy

/-!
# What is refused

Stored text is read for bytes, or it stands in braces and is refused: it is no envelope, or the
service does not open it. That is so unless the text is to be the secret itself and has no bytes.
-/

namespace Keyring

theorem CodePoint.utf8?_eq_none_iff {c : CodePoint} : c.utf8? = none ↔ c.isSurrogate = true := by
  by_cases hs : c.isSurrogate = true
  · have hrange := hs
    simp only [isSurrogate, Bool.and_eq_true, decide_eq_true_eq] at hrange
    rw [utf8?, if_neg (by omega), if_neg (by omega), if_pos hs]
    exact iff_of_true rfl hs
  · refine iff_of_false ?_ hs
    unfold utf8?
    split_ifs
    all_goals simp

/-- Exactly the texts that hold a surrogate have no bytes. -/
theorem Text.utf8?_eq_none_iff {t : Text} :
    t.utf8? = none ↔ ∃ c ∈ t, c.isSurrogate = true := by
  induction t with
  | nil => simp [Text.utf8?]
  | cons c rest ih =>
    simp only [List.mem_cons, exists_eq_or_imp]
    rw [← ih, ← CodePoint.utf8?_eq_none_iff, Text.utf8?]
    cases c.utf8? <;> cases Text.utf8? rest <;> simp

namespace Secret

/-- The service fails on messages only: it refuses one that it did not seal, or finds it invalid. -/
def Service.FailsOnMessages (service : Service) : Prop :=
  ∀ message fault, service.decrypt message = .error fault → fault.isAboutMessage = true

/-- The answers that reading promises: bytes, and for text in braces that it is damaged. -/
inductive Promised (stored : Option Text) : Except DecodeFault Bytes → Prop
  | bytes (plaintext : Bytes) : Promised stored (.ok plaintext)
  | unopened {t : Text} (ht : stored = some t) (hbraced : isBraced t = true) :
      Promised stored (.error .unopened)
  | malformed {t : Text} (ht : stored = some t) (hbraced : isBraced t = true) :
      Promised stored (.error .malformed)

def Unencodable (stored : Option Text) : Prop :=
  ∃ t, stored = some t ∧ isBraced t = false ∧ ∃ c ∈ t, c.isSurrogate = true

namespace Codec

variable {codec : Codec}

theorem value_decrypt_cases (h : codec.service.FailsOnMessages) (message : Bytes) :
    (∃ plaintext, (codec.decrypt message).value = .ok plaintext) ∨
      (codec.decrypt message).value = .error .unopened := by
  cases hopen : codec.service.decrypt message with
  | ok plaintext => exact .inl ⟨plaintext, decrypt_value hopen⟩
  | error fault =>
    right
    simp only [decrypt, hopen, if_pos (h message fault hopen)]
    rfl

/-- Legacy text is read for its bytes unless it holds a surrogate. Then it is no base64 either. -/
theorem value_decodeLegacy_cases (t : Text) :
    (∃ plaintext, (decodeLegacy (some t)).value = .ok plaintext) ∧
        (¬∃ c ∈ t, c.isSurrogate = true) ∨
      (decodeLegacy (some t)).value = .error .unencodable ∧ ∃ c ∈ t, c.isSurrogate = true := by
  cases hdecode : Base64.decode t with
  | some b =>
    left
    refine ⟨⟨b, by simp only [decodeLegacy, hdecode]; rfl⟩, ?_⟩
    rintro ⟨c, hc, hsurrogate⟩
    have hascii := Base64.isAscii_of_decode hdecode hc
    simp only [CodePoint.isAscii, CodePoint.isSurrogate, Bool.and_eq_true,
      decide_eq_true_eq] at hascii hsurrogate
    omega
  | none =>
    rw [← Text.utf8?_eq_none_iff]
    cases hbytes : t.utf8? with
    | some b =>
      left
      exact ⟨⟨b, by simp only [decodeLegacy, hdecode, hbytes]; rfl⟩, by simp⟩
    | none =>
      right
      exact ⟨by simp only [decodeLegacy, hdecode, hbytes]; rfl, rfl⟩

theorem decodeEnvelope_of_not_isBraced {t : Text} (h : isBraced t = false) :
    codec.decodeEnvelope (some t) = decodeLegacy (some t) := by
  cases t with
  | nil => rfl
  | cons c rest =>
    have hunwrap : codec.unwrap (some (c :: rest)) = none := unwrapEnvelope_of_not_isBraced h
    simp only [decodeEnvelope, List.isEmpty_cons, decodeText, hunwrap, h, Bool.false_eq_true,
      if_false]

theorem promised_of_isBraced (h : codec.service.FailsOnMessages) {t : Text}
    (hbraced : isBraced t = true) :
    Promised (some t) (codec.decodeEnvelope (some t)).value := by
  obtain ⟨inner, rfl⟩ : ∃ inner, t = braced inner := ⟨body t, eq_braced_of_isBraced hbraced⟩
  cases hunwrap : codec.unwrap (some (braced inner)) with
  | none =>
    rw [decodeEnvelope_malformed hunwrap]
    exact .malformed rfl hbraced
  | some message =>
    rw [decodeEnvelope_of_unwrap hunwrap]
    rcases value_decrypt_cases h message with ⟨plaintext, hopened⟩ | hunopened
    · rw [hopened]
      exact .bytes plaintext
    · rw [hunopened]
      exact .unopened rfl hbraced

theorem reading_cases (h : codec.service.FailsOnMessages) (stored : Option Text) :
    Promised stored (codec.decodeEnvelope stored).value ∧ ¬Unencodable stored ∨
      (codec.decodeEnvelope stored).value = .error .unencodable ∧ Unencodable stored := by
  cases stored with
  | none =>
    refine .inl ⟨.bytes [], ?_⟩
    rintro ⟨t, ht, -⟩
    cases ht
  | some t =>
    cases hbraced : isBraced t with
    | true =>
      refine .inl ⟨promised_of_isBraced h hbraced, ?_⟩
      rintro ⟨other, hother, houtside, -⟩
      cases hother
      rw [hbraced] at houtside
      cases houtside
    | false =>
      rw [decodeEnvelope_of_not_isBraced hbraced]
      rcases value_decodeLegacy_cases t with ⟨⟨plaintext, hread⟩, hplain⟩ | ⟨hread, hsurrogate⟩
      · rw [hread]
        refine .inl ⟨.bytes plaintext, ?_⟩
        rintro ⟨other, hother, -, hsurrogate⟩
        cases hother
        exact hplain hsurrogate
      · exact .inr ⟨hread, t, rfl, hbraced, hsurrogate⟩

/-- Over a service that fails on messages only, reading keeps its promise exactly for the stored texts
that stand in braces or have bytes. The others, which are no base64 either, fail in another way. -/
theorem reading_keeps_promise (codec : Codec) (h : codec.service.FailsOnMessages)
    (stored : Option Text) :
    (Promised stored (codec.decodeEnvelope stored).value ↔ ¬Unencodable stored) ∧
      (Unencodable stored → (codec.decodeEnvelope stored).value = .error .unencodable) := by
  rcases reading_cases h stored with ⟨hpromised, hnot⟩ | ⟨hread, hun⟩
  · exact ⟨iff_of_true hpromised hnot, fun hun => absurd hun hnot⟩
  · refine ⟨iff_of_false ?_ (not_not_intro hun), fun _ => hread⟩
    rw [hread]
    intro hpromised
    cases hpromised

theorem failsOnMessages_salted : Service.salted.FailsOnMessages := by
  intro message fault hfault
  simp only [Service.salted] at hfault
  split at hfault
  · cases hfault
  · cases hfault
    rfl

theorem reading_keeps_promise_braced :
    Service.salted.FailsOnMessages ∧ ¬Unencodable (some (braced [CodePoint.ofNat 0xd800])) ∧
      Promised (some (braced [CodePoint.ofNat 0xd800]))
        ((Codec.mk .salted 2).decodeEnvelope (some (braced [CodePoint.ofNat 0xd800]))).value := by
  have hnot : ¬Unencodable (some (braced [CodePoint.ofNat 0xd800])) := by
    rintro ⟨t, ht, houtside, -⟩
    cases ht
    cases houtside
  have h := reading_keeps_promise ⟨.salted, 2⟩ failsOnMessages_salted
    (some (braced [CodePoint.ofNat 0xd800]))
  exact ⟨failsOnMessages_salted, hnot, h.1.mpr hnot⟩

/-- Half of a pair of surrogates alone is read for nothing that was promised. -/
theorem lone_surrogate_breaks_promise :
    Service.salted.FailsOnMessages ∧
      ((Codec.mk .salted 2).decodeEnvelope (some [CodePoint.ofNat 0xd800])).value =
        .error .unencodable ∧
      ¬Promised (some [CodePoint.ofNat 0xd800])
        ((Codec.mk .salted 2).decodeEnvelope (some [CodePoint.ofNat 0xd800])).value := by
  have hread : ((Codec.mk .salted 2).decodeEnvelope (some [CodePoint.ofNat 0xd800])).value =
      .error .unencodable := rfl
  refine ⟨failsOnMessages_salted, hread, ?_⟩
  rw [hread]
  intro hpromised
  cases hpromised

end Codec

end Secret

end Keyring
