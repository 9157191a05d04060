import Mathlib.Tactic
import WorldClock.Rpc.Envelope
/-!
# Texts as messages

The bytes of a text encode the text, so that a message that is given as a text can be read without a
look at its bytes.
-/

namespace WorldClock

/-- The bytes by which a text is sent. -/
def Bytes.ofText (text : String) : Bytes :=
  text.toUTF8.data.toList

@[simp] lemma Bytes.text_ofText (text : String) : (Bytes.ofText text).text? = some text := by
  have hbytes : (Bytes.ofText text).toByteArray = text.toUTF8 := ByteArray.ext (by simp [ofText])
  unfold Bytes.text? String.fromUTF8?
  rw [hbytes]
  exact dif_pos text.isValidUTF8

lemma Bytes.text_eq_some_iff {raw : Bytes} {text : String} :
    raw.text? = some text ↔ raw = .ofText text := by
  constructor
  · intro h
    unfold Bytes.text? String.fromUTF8? at h
    split_ifs at h with hvalid
    cases h
    simp [ofText, String.fromUTF8]
  · rintro rfl
    exact text_ofText text

lemma Bytes.ofText_append (text more : String) :
    ofText (text ++ more) = ofText text ++ ofText more := by
  simp [ofText]

/-- A byte below U+0080 is never a part of another character. -/
lemma Bytes.toNat_eq_of_mem_utf8EncodeChar {c : Char} {byte : UInt8}
    (h : byte ∈ String.utf8EncodeChar c) (hbyte : byte.toNat < 0x80) : c.toNat = byte.toNat := by
  have hval : c.val.toNat = c.toNat := rfl
  unfold String.utf8EncodeChar at h
  simp only [hval] at h
  split_ifs at h with hone htwo hthree <;>
    simp only [List.mem_cons, List.not_mem_nil, or_false] at h
  · rw [h, UInt8.toNat_ofNat']
    omega
  · rcases h with rfl | rfl <;> simp only [UInt8.toNat_ofNat'] at hbyte <;> omega
  · rcases h with rfl | rfl | rfl <;> simp only [UInt8.toNat_ofNat'] at hbyte <;> omega
  · rcases h with rfl | rfl | rfl | rfl <;> simp only [UInt8.toNat_ofNat'] at hbyte <;> omega

lemma Bytes.ofText_eq_flatMap (text : String) :
    ofText text = text.toList.flatMap String.utf8EncodeChar := by
  rw [ofText, String.toUTF8_eq_toByteArray, ← String.utf8Encode_toList, List.utf8Encode]
  simp

lemma Bytes.exists_char_of_mem_ofText {text : String} {byte : UInt8} (h : byte ∈ ofText text)
    (hbyte : byte.toNat < 0x80) : ∃ c ∈ text.toList, c.toNat = byte.toNat := by
  rw [ofText_eq_flatMap, List.mem_flatMap] at h
  obtain ⟨c, hc, hmem⟩ := h
  exact ⟨c, hc, toNat_eq_of_mem_utf8EncodeChar hmem hbyte⟩

/-- The request that a text of limited size holds. -/
lemma Request.ofBytes_ofText {text : String} (h : text.utf8ByteSize ≤ maxMessageBytes) :
    ofBytes? (.ofText text) =
      (Json.Tree.ofText? (Text.trimmed text.toList)).bind ofTree? := by
  have hlength : (Bytes.ofText text).length ≤ maxMessageBytes := h
  simp only [ofBytes?, guard, hlength, if_pos, Bytes.text_ofText]
  rfl

end WorldClock
