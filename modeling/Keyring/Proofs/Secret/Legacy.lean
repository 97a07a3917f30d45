import Keyring.Proofs.Base64.Lines
import Keyring.Proofs.Secret.Envelope

/-!
# Legacy text keeps its meaning

A secret that was stored before secrets were sealed is base64 of its bytes. Such text never stands
in braces, so it is read for its bytes in every form and wrapping, and nothing is opened.
-/

namespace Keyring.Secret

open Base64

private theorem openBrace_not_isBodyChar : isBodyChar openBrace = false := by
  decide

theorem not_isBraced_of_isBodyChar {t : Text} (h : t.all isBodyChar = true) :
    isBraced t = false := by
  have hhead : t.head? ≠ some openBrace := by
    intro hb
    have hm := List.all_eq_true.mp h openBrace (List.mem_of_mem_head? hb)
    rw [openBrace_not_isBodyChar] at hm
    cases hm
  simp [isBraced, hhead]

theorem unwrapEnvelope_of_not_isBraced {minimum : Nat} {t : Text} (h : isBraced t = false) :
    unwrapEnvelope minimum t = none := by
  simp [unwrapEnvelope, h]

namespace Codec

theorem decodeEnvelope_of_decode (codec : Codec) {t : Text} {b : Bytes} (hne : t ≠ [])
    (hbraced : isBraced t = false) (h : decode t = some b) :
    codec.decodeEnvelope (some t) = pure (.ok b) := by
  have hempty : t.isEmpty = false := List.isEmpty_eq_false_iff.mpr hne
  have hunwrap : codec.unwrap (some t) = none := unwrapEnvelope_of_not_isBraced hbraced
  have hlegacy : decodeLegacy (some t) = pure (.ok b) := by
    simp only [decodeLegacy, h]
  simp only [decodeEnvelope, hempty, decodeText, hunwrap, hbraced, Bool.false_eq_true, if_false,
    hlegacy]

theorem decodeEnvelope_of_breaks (codec : Codec) {b : Bytes} {t u : Text} (hb : b ≠ [])
    (ht : t ∈ spellings b) (hu : Breaks t u) :
    decode u = some b ∧ codec.decodeEnvelope (some u) = pure (.ok b) := by
  have hdecode := decode_of_breaks hb ht hu
  have hne : u ≠ [] := by
    have hlen := List.length_pos_iff.mpr (ne_nil_of_mem_spellings ht hb)
    have hle := hu.length_le
    exact List.ne_nil_of_length_pos (by omega)
  have hbraced := not_isBraced_of_isBodyChar (isBodyChar_of_breaks ht hu)
  exact ⟨hdecode, codec.decodeEnvelope_of_decode hne hbraced hdecode⟩

/-- Bytes are read from every text that spells them in either alphabet and is broken into lines
anywhere, written text in one line or in lines of any width included. The answer is there at once:
the service is asked for nothing, and nothing is logged. -/
theorem legacy_reads_back (codec : Codec) {d : Bytes} (hd : d ≠ []) :
    (∀ t ∈ spellings d, ∀ u, Breaks t u →
      decode u = some d ∧ codec.decodeEnvelope (some u) = pure (.ok d)) ∧
    (∀ alphabet, decode (encode alphabet d) = some d ∧
      codec.decodeEnvelope (some (encode alphabet d)) = pure (.ok d)) ∧
    (∀ alphabet width, 0 < width → ∃ u, encodeLines alphabet width d = .ok u ∧
      decode u = some d ∧ codec.decodeEnvelope (some u) = pure (.ok d)) := by
  refine ⟨?_, ?_, ?_⟩
  · intro t ht u hu
    exact codec.decodeEnvelope_of_breaks hd ht hu
  · intro alphabet
    exact codec.decodeEnvelope_of_breaks hd (encode_mem_spellings alphabet d) (.refl _)
  · intro alphabet width hw
    obtain ⟨u, hlines, hu⟩ := exists_encodeLines alphabet hw d
    exact ⟨u, hlines, codec.decodeEnvelope_of_breaks hd (encode_mem_spellings alphabet d) hu⟩

private def outOfOrder : Service where
  shown := "OutOfOrder()"
  encrypt plaintext random := (plaintext, random)
  decrypt _ := .error (.broken "out of order")

theorem legacy_reads_back_without_padding :
    ([0xfb, 0xff] : Bytes) ≠ [] ∧
      (Codec.mk outOfOrder 28).decodeEnvelope (some ("-\n_8\r\n" : Text)) =
        pure (.ok [0xfb, 0xff]) := by
  have hd : ([0xfb, 0xff] : Bytes) ≠ [] := by decide
  have hu : Breaks ("-_8" : Text) ("-\n_8\r\n" : Text) :=
    .keep _ (.lf (.keep _ (.keep _ (.crlf .done))))
  have h := (legacy_reads_back ⟨outOfOrder, 28⟩ hd).1 ("-_8" : Text) (by decide) _ hu
  exact ⟨hd, h.2⟩

end Codec

end Keyring.Secret
