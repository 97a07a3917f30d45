import Keyring.Cipher.Encryptor
import Mathlib.Logic.ExistsUnique

/-!
# What is sealed can be opened, and nothing else

Counter mode adds a stream that does not depend on the text, so adding it twice gives the text back.
The tag is computed from the ciphertext on both sides. A sealed message is taken apart where it was
put together, and opens under the same key and the same associated data. Whatever opens was sealed:
the nonce, the associated data and the text leave one message.
-/

namespace Keyring

namespace Bytes

@[simp] theorem length_xor (a b : Bytes) : (xor a b).length = min a.length b.length :=
  List.length_zipWith

theorem xor_xor {a b : Bytes} (h : a.length ≤ b.length) : xor (xor a b) b = a := by
  apply List.ext_getElem
  · simp [h]
  · intro i hleft hright
    simp only [xor, List.getElem_zipWith, UInt8.xor_assoc, UInt8.xor_self, UInt8.xor_zero]

@[simp] theorem length_ofNat (width n : Nat) : (ofNat width n).length = width := by
  induction width generalizing n with
  | zero => rfl
  | succ width ih => simp [ofNat, ih]

end Bytes

@[simp] theorem Random.length_next (random : Random) (count : Nat) :
    (random.next count).1.length = count := by
  simp only [next, List.length_append, List.length_replicate, List.length_take]
  omega

namespace Cipher

@[simp] theorem Aes.length_encryptBlock (keys : List Aes.Block) (block : Bytes) :
    (Aes.encryptBlock keys block).length = Gcm.blockSize := by
  cases keys <;> rfl

namespace Gcm

section

variable {cipher : Bytes → Bytes} (hc : ∀ block, (cipher block).length = blockSize)
include hc

theorem length_keyStream (nonce : Bytes) (length : Nat) :
    (keyStream cipher nonce length).length = length := by
  have hblocks : ∀ count, ((List.range count).flatMap
      fun i => cipher (counterBlock nonce (i + 2))).length = count * blockSize := by
    intro count
    induction count with
    | zero => simp
    | succ count ih => simp [List.range_succ, hc, ih, Nat.add_mul]
  rw [keyStream, List.length_take, hblocks]
  simp only [blockSize]
  omega

theorem length_mask (nonce text : Bytes) : (mask cipher nonce text).length = text.length := by
  rw [mask, Bytes.length_xor, length_keyStream hc, Nat.min_self]

theorem mask_mask (nonce text : Bytes) : mask cipher nonce (mask cipher nonce text) = text := by
  rw [mask, length_mask hc, mask]
  apply Bytes.xor_xor
  exact Nat.le_of_eq (length_keyStream hc nonce text.length).symm

theorem length_tag (nonce authenticated ciphertext : Bytes) :
    (tag cipher nonce authenticated ciphertext).length = tagSize := by
  simp [tag, hc, blockSize, tagSize]

theorem length_encrypt (nonce authenticated plaintext : Bytes) :
    (encrypt cipher nonce authenticated plaintext).length = plaintext.length + tagSize := by
  simp [encrypt, length_mask hc, length_tag hc]

theorem decrypt?_encrypt (nonce authenticated plaintext : Bytes) :
    decrypt? cipher nonce authenticated (encrypt cipher nonce authenticated plaintext) =
      some plaintext := by
  have hsize : (encrypt cipher nonce authenticated plaintext).length - tagSize =
      (mask cipher nonce plaintext).length := by
    rw [length_encrypt hc, length_mask hc, Nat.add_sub_cancel]
  simp only [decrypt?, hsize]
  rw [encrypt, List.take_left, List.drop_left, if_pos rfl, mask_mask hc]

theorem decrypt?_eq_some {nonce authenticated sealed plaintext : Bytes} :
    decrypt? cipher nonce authenticated sealed = some plaintext ↔
      sealed = encrypt cipher nonce authenticated plaintext := by
  constructor
  · intro h
    -- no length is asked for: a message too short for a tag is compared with one as a whole
    simp only [decrypt?, Option.ite_none_right_eq_some, Option.some.injEq] at h
    obtain ⟨htag, rfl⟩ := h
    rw [encrypt, mask_mask hc, ← htag, List.take_append_drop]
  · rintro rfl
    exact decrypt?_encrypt hc nonce authenticated plaintext

end

end Gcm

namespace Encryptor

variable (e : Encryptor) (nonce plaintext : Bytes) (associated : Option Bytes) (random : Random)

theorem ofKey_of_length {key : Bytes} (h : key.length = keySize) : ofKey key = .ok ⟨key, h⟩ :=
  dif_pos h

theorem length_cipher (block : Bytes) : (e.cipher block).length = Gcm.blockSize :=
  Aes.length_encryptBlock (Aes.roundKeys e.key) block

theorem length_sealWith (authenticated : Bytes) :
    (e.sealWith nonce authenticated plaintext).length =
      nonce.length + (plaintext.length + Gcm.tagSize) := by
  rw [sealWith, List.length_append, Gcm.length_encrypt e.length_cipher]

theorem decrypt_sealWith (h : nonce.length = nonceSize) :
    e.decrypt associated (e.sealWith nonce (associated.getD []) plaintext) = .ok plaintext := by
  have hlong : ¬(e.sealWith nonce (associated.getD []) plaintext).length < overhead := by
    rw [length_sealWith, h, overhead]
    omega
  have hnonce : (e.sealWith nonce (associated.getD []) plaintext).take nonceSize = nonce := by
    rw [sealWith, ← h, List.take_left]
  have hrest : (e.sealWith nonce (associated.getD []) plaintext).drop nonceSize =
      Gcm.encrypt e.cipher nonce (associated.getD []) plaintext := by
    rw [sealWith, ← h, List.drop_left]
  rw [decrypt, if_neg hlong, hnonce, hrest, Gcm.decrypt?_encrypt e.length_cipher]

/-- An encryptor opens what it seals, whatever bytes it draws. -/
theorem decrypt_encrypt :
    e.decrypt associated (e.encrypt associated plaintext random).1 = .ok plaintext :=
  e.decrypt_sealWith _ plaintext associated (random.length_next nonceSize)

/-- A message that opens is what its text is sealed as under the nonce at its start. -/
theorem eq_sealWith_of_decrypt {message : Bytes}
    (h : e.decrypt associated message = .ok plaintext) :
    overhead ≤ message.length ∧
      message = e.sealWith (message.take nonceSize) (associated.getD []) plaintext := by
  rw [decrypt] at h
  split at h
  · cases h
  · rename_i hlong
    split at h
    · rename_i found hfound
      cases h
      refine ⟨by omega, ?_⟩
      rw [sealWith, ← (Gcm.decrypt?_eq_some e.length_cipher).mp hfound, List.take_append_drop]
    · cases h

theorem overhead_le_of_decrypt {message : Bytes}
    (h : e.decrypt associated message = .ok plaintext) : overhead ≤ message.length :=
  (e.eq_sealWith_of_decrypt plaintext associated h).1

theorem encrypt_of_nonce (h : nonce.length = nonceSize) (rest : Bytes) :
    e.encrypt associated plaintext ⟨nonce ++ rest⟩ =
      (e.sealWith nonce (associated.getD []) plaintext, ⟨rest⟩) := by
  have hnext : (Random.mk (nonce ++ rest)).next nonceSize = (nonce, ⟨rest⟩) := by
    simp [Random.next, ← h]
  rw [encrypt, hnext]

theorem decrypt_cases (message : Bytes) :
    message.length < overhead ∧ e.decrypt associated message = .error .tooShort ∨
    overhead ≤ message.length ∧ e.decrypt associated message = .error .notAuthentic ∨
    ∃ plaintext, e.decrypt associated message = .ok plaintext := by
  by_cases hshort : message.length < overhead
  · exact .inl ⟨hshort, if_pos hshort⟩
  · right
    cases hopen : Gcm.decrypt? e.cipher (message.take nonceSize) (associated.getD [])
        (message.drop nonceSize) with
    | none =>
      refine .inl ⟨by omega, ?_⟩
      rw [decrypt, if_neg hshort, hopen]
    | some plaintext =>
      refine .inr ⟨plaintext, ?_⟩
      rw [decrypt, if_neg hshort, hopen]

theorem existsUnique_decrypt (h : nonce.length = nonceSize) :
    ∃! message, message.take nonceSize = nonce ∧ e.decrypt associated message = .ok plaintext := by
  refine ⟨e.sealWith nonce (associated.getD []) plaintext, ⟨?_, ?_⟩, ?_⟩
  · rw [sealWith, ← h, List.take_left]
  · exact e.decrypt_sealWith nonce plaintext associated h
  · rintro message ⟨rfl, hopen⟩
    exact (e.eq_sealWith_of_decrypt plaintext associated hopen).2

/-- Sealing and opening under a key are inverse to each other. What is sealed is the nonce and the
text grown by a tag, and opens to the text; a message is refused or was sealed from the text that it
opens to. -/
theorem sealing_is_exact {key : Bytes} (hkey : key.length = 32) :
    ∃ e, ofKey key = .ok e ∧ e.key = key ∧
      (∀ nonce plaintext rest : Bytes, nonce.length = 12 → ∀ associated,
        ∃ body, body.length = plaintext.length + 16 ∧
          e.encrypt associated plaintext ⟨nonce ++ rest⟩ = (nonce ++ body, ⟨rest⟩) ∧
          e.decrypt associated (nonce ++ body) = .ok plaintext) ∧
      (∀ associated message,
        message.length < 28 ∧ e.decrypt associated message = .error .tooShort ∨
        28 ≤ message.length ∧ e.decrypt associated message = .error .notAuthentic ∨
        ∃ plaintext, e.decrypt associated message = .ok plaintext ∧
          message.length = plaintext.length + 28 ∧
          ∀ rest, e.encrypt associated plaintext ⟨message.take 12 ++ rest⟩ = (message, ⟨rest⟩)) ∧
      (∀ nonce plaintext : Bytes, nonce.length = 12 → ∀ associated,
        ∃! message, message.take 12 = nonce ∧ e.decrypt associated message = .ok plaintext) ∧
      (∀ plaintext random, e.encrypt none plaintext random = e.encrypt (some []) plaintext random) ∧
      ∀ message, e.decrypt none message = e.decrypt (some []) message := by
  refine ⟨⟨key, hkey⟩, ofKey_of_length hkey, rfl, ?_, ?_, ?_, fun _ _ => rfl, fun _ => rfl⟩
  · intro nonce plaintext rest hnonce associated
    let e : Encryptor := ⟨key, hkey⟩
    exact ⟨Gcm.encrypt e.cipher nonce (associated.getD []) plaintext,
      Gcm.length_encrypt e.length_cipher nonce _ plaintext,
      e.encrypt_of_nonce nonce plaintext associated hnonce rest,
      e.decrypt_sealWith nonce plaintext associated hnonce⟩
  · intro associated message
    rcases decrypt_cases ⟨key, hkey⟩ associated message with
      hshort | hrefused | ⟨plaintext, hopen⟩
    · exact .inl hshort
    · exact .inr (.inl hrefused)
    · obtain ⟨hlong, hmessage⟩ := eq_sealWith_of_decrypt _ plaintext associated hopen
      have hnonce : (message.take nonceSize).length = nonceSize := by
        rw [List.length_take]
        simp only [overhead] at hlong
        omega
      have hsize := length_sealWith ⟨key, hkey⟩ (message.take nonceSize) plaintext
        (associated.getD [])
      rw [← hmessage, hnonce] at hsize
      refine .inr (.inr ⟨plaintext, hopen, ?_, fun rest => ?_⟩)
      · simp only [nonceSize, Gcm.tagSize] at hsize
        omega
      · have hseal := encrypt_of_nonce ⟨key, hkey⟩ _ plaintext associated hnonce rest
        rwa [← hmessage] at hseal
  · intro nonce plaintext hnonce associated
    exact existsUnique_decrypt _ nonce plaintext associated hnonce

private def zeros : Encryptor := ⟨List.replicate 32 0, rfl⟩

private def sealedNothing : Bytes :=
  List.replicate 12 0 ++
    [0x53, 0x0f, 0x8a, 0xfb, 0xc7, 0x45, 0x36, 0xb9, 0xa9, 0x63, 0xb4, 0xf1, 0xc4, 0xcb, 0x73, 0x8b]

theorem sealing_is_exact_zeros :
    zeros.key.length = 32 ∧ zeros.decrypt none sealedNothing = .ok [] ∧
      (∀ message, message.take 12 = List.replicate 12 0 → zeros.decrypt none message = .ok [] →
        message = sealedNothing) ∧
      zeros.decrypt none (List.replicate 27 0) = .error .tooShort := by
  obtain ⟨e, he, -, hseal, hopen, hunique, -, -⟩ := sealing_is_exact zeros.key_length
  have hzeros : e = zeros := Except.ok.inj (he.symm.trans (ofKey_of_length zeros.key_length))
  subst hzeros
  have hnothing : (zeros.encrypt none [] ⟨List.replicate 12 0⟩).1 = sealedNothing := by
    decide +kernel
  obtain ⟨body, -, hdrawn, hback⟩ := hseal (List.replicate 12 0) [] [] rfl none
  rw [List.append_nil] at hdrawn
  rw [hdrawn] at hnothing
  dsimp only at hnothing
  rw [hnothing] at hback
  refine ⟨rfl, hback, fun message hnonce hmessage => ?_, ?_⟩
  · exact (hunique (List.replicate 12 0) [] rfl none).unique ⟨hnonce, hmessage⟩ ⟨rfl, hback⟩
  · exact if_pos (by decide)

end Encryptor

end Cipher

end Keyring
