import Keyring.Proofs.Base64.Detection
import Keyring.Secret.Codec

/-!
# Envelopes hold what was sealed

An envelope is read for the bytes that its body spells, whichever alphabet it is in and however it
was wrapped, so a secret comes back from every rewriting of its envelope.
-/

namespace Keyring.Secret

open Base64

def braced (body : Text) : Text :=
  openBrace :: (body ++ [closeBrace])

theorem isBraced_braced (t : Text) : isBraced (braced t) = true := by
  have hlast : (braced t).getLast? = some closeBrace := by
    rw [braced, ← List.cons_append, List.getLast?_concat]
  simp only [isBraced, hlast, BEq.rfl, Bool.and_true]
  simp [braced]

theorem body_braced (t : Text) : body (braced t) = t := by
  rw [body, braced, List.drop_one, List.tail_cons, List.dropLast_concat]

theorem braced_isEmpty (t : Text) : (braced t).isEmpty = false := rfl

theorem eq_braced_of_isBraced {t : Text} (h : isBraced t = true) : t = braced (body t) := by
  simp only [isBraced, Bool.and_eq_true, decide_eq_true_eq, beq_iff_eq] at h
  obtain ⟨⟨hlength, hhead⟩, hlast⟩ := h
  obtain ⟨rest, rfl⟩ := List.head?_eq_some_iff.mp hhead
  have hne : rest ≠ [] := by
    apply List.ne_nil_of_length_pos
    simp only [List.length_cons] at hlength
    omega
  rw [List.getLast?_cons_of_ne_nil hne] at hlast
  obtain ⟨inner, rfl⟩ := List.getLast?_eq_some_iff.mp hlast
  exact congrArg braced (body_braced inner).symm

/-- A text in braces with something between them that some form of base64 may hold. Every envelope
is one. -/
def IsCandidate (t : Text) : Prop :=
  ∃ inner, inner ≠ [] ∧ inner.all isBodyChar = true ∧ t = braced inner

theorem isCandidate_of_unwrapEnvelope {minimum : Nat} {t : Text} {b : Bytes}
    (h : unwrapEnvelope minimum t = some b) : IsCandidate t := by
  rw [unwrapEnvelope] at h
  split at h
  next hshape =>
    simp only [Bool.and_eq_true, decide_eq_true_eq] at hshape
    obtain ⟨⟨hlength, hbraced⟩, hbody⟩ := hshape
    have ht := eq_braced_of_isBraced hbraced
    refine ⟨body t, ?_, hbody, ht⟩
    intro hnil
    rw [ht, hnil] at hlength
    simp [braced] at hlength
  next => cases h

/-- What stands between the braces may be any spelling of bytes, broken anywhere. -/
theorem isBodyChar_of_breaks {b : Bytes} {t u : Text} (ht : t ∈ spellings b) (hu : Breaks t u) :
    u.all isBodyChar = true := by
  refine List.all_eq_true.mpr fun c hc => ?_
  rcases hu.mem hc with hc | rfl | rfl
  · rcases value?_of_mem_spellings ht hc with ⟨alphabet, hv⟩ | rfl
    · cases alphabet <;> simp [isBodyChar, hv]
    · decide
  · decide
  · decide

theorem unwrapEnvelope_braced {minimum : Nat} {b : Bytes} {t u : Text}
    (hb : max 1 minimum ≤ b.length) (ht : t ∈ spellings b) (hu : Breaks t u) :
    unwrapEnvelope minimum (braced u) = some b := by
  have hne : b ≠ [] := List.ne_nil_of_length_pos (by omega)
  have hlen : 3 ≤ (braced u).length := by
    have ht := List.length_pos_iff.mpr (ne_nil_of_mem_spellings ht hne)
    have hle := hu.length_le
    simp only [braced, List.length_cons, List.length_append, List.length_nil]
    omega
  have hmin : ¬ b.length < minimum := by omega
  simp only [unwrapEnvelope, hlen, isBraced_braced, body_braced, isBodyChar_of_breaks ht hu,
    decode_of_breaks hne ht hu, hmin, decide_true, Bool.and_self, if_true, if_false]

namespace Codec

variable {codec : Codec} {plaintext sealed : Bytes} {t u : Text}

theorem decodeEnvelope_of_unwrap (h : codec.unwrap (some (braced u)) = some sealed) :
    codec.decodeEnvelope (some (braced u)) = codec.decrypt sealed := by
  rw [decodeEnvelope, braced_isEmpty, if_neg Bool.false_ne_true, decodeText, h]

theorem decodeEnvelope_braced (hb : max 1 codec.minimum ≤ sealed.length)
    (ht : t ∈ spellings sealed) (hu : Breaks t u) :
    codec.decodeEnvelope (some (braced u)) = codec.decrypt sealed :=
  decodeEnvelope_of_unwrap (unwrapEnvelope_braced hb ht hu)

theorem decrypt_of_ok (h : codec.service.decrypt sealed = .ok plaintext) :
    codec.decrypt sealed = ⟨.ok plaintext, [.opening sealed]⟩ := by
  rw [decrypt, h]
  rfl

theorem decrypt_value (h : codec.service.decrypt sealed = .ok plaintext) :
    (codec.decrypt sealed).value = .ok plaintext := by
  rw [decrypt_of_ok h]

/-- What is sealed comes back from its envelope, and from every text that spells the sealed bytes
between braces in either alphabet and is broken into lines anywhere. -/
theorem envelope_reads_back (codec : Codec)
    (hopen : ∀ p random, codec.service.decrypt (codec.service.encrypt p random).1 = .ok p)
    (hsize : ∀ p random,
      max 1 codec.minimum ≤ (codec.service.encrypt p random).1.length) :
    (∀ p random, (codec.decodeEnvelope (some (codec.encodeBytes p random).1)).value = .ok p ∧
      ∃ line, (codec.encodeBytes p random).1 = braced line ∧
        line = encode .standard (codec.service.encrypt p random).1 ∧
        line.length % 4 = 0 ∧ isShaped .standard line = true) ∧
    (∀ sealed, max 1 codec.minimum ≤ sealed.length → ∀ t ∈ spellings sealed, ∀ u, Breaks t u →
      codec.isEnvelope (some (braced u)) = true ∧
        codec.unwrap (some (braced u)) = some sealed) ∧
    (∀ p random, ∀ t ∈ spellings (codec.service.encrypt p random).1, ∀ u, Breaks t u →
      (codec.decodeEnvelope (some (braced u))).value = .ok p) := by
  have hback : ∀ p random, ∀ t ∈ spellings (codec.service.encrypt p random).1, ∀ u, Breaks t u →
      (codec.decodeEnvelope (some (braced u))).value = .ok p := by
    intro p random t ht u hu
    rw [decodeEnvelope_braced (hsize p random) ht hu, decrypt_value (hopen p random)]
  refine ⟨fun p random => ⟨?_, ?_⟩, ?_, hback⟩
  · exact hback p random _ List.mem_cons_self _ (.refl _)
  · have hline := decodeLine_standard.mp
      (decodeLine_standard_encode (codec.service.encrypt p random).1)
    exact ⟨_, rfl, rfl, hline.1, hline.2.1⟩
  · intro sealed hb t ht u hu
    have hw : codec.unwrap (some (braced u)) = some sealed := unwrapEnvelope_braced hb ht hu
    exact ⟨by rw [isEnvelope, hw, Option.isSome_some], hw⟩

private def marking : Service where
  shown := "Marking()"
  encrypt plaintext random := (0 :: plaintext, random)
  decrypt
    | 0 :: plaintext => .ok plaintext
    | _ => .error (.refused "no mark")

theorem envelope_reads_back_marking :
    (∀ p random, marking.decrypt (marking.encrypt p random).1 = .ok p) ∧
      (∀ p random, max 1 1 ≤ (marking.encrypt p random).1.length) ∧
      ((Codec.mk marking 1).decodeEnvelope
        (some (braced ("A\nPv_\r\n" : Text)))).value = .ok [0xfb, 0xff] := by
  have hopen : ∀ p random, marking.decrypt (marking.encrypt p random).1 = .ok p :=
    fun _ _ => rfl
  have hsize : ∀ p random, max 1 1 ≤ (marking.encrypt p random).1.length :=
    fun p _ => Nat.succ_le_succ (Nat.zero_le p.length)
  have h := (envelope_reads_back ⟨marking, 1⟩ hopen hsize).2.2 [0xfb, 0xff] ⟨[]⟩
  refine ⟨hopen, hsize, ?_⟩
  exact h ("APv_" : Text) (by decide) _ (.keep _ (.lf (.keep _ (.keep _ (.keep _ (.crlf .done))))))

end Codec

end Keyring.Secret
