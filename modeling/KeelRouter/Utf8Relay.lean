import Mathlib.Data.List.Induction

/-!
# Relaying UTF-8 text frame by frame

A relay decodes each frame of a byte stream on its own and forwards the text of
the frames that are valid UTF-8; the other frames are lost.  What can come out
of a byte string over all ways of cutting it into frames are its residues:
characters are kept, and stretches that contain a byte outside ASCII may be
dropped.  A stretch of valid text is lost by cutting it inside a character.
-/

namespace Utf8Relay

def encode (text : List Char) : List UInt8 :=
  text.flatMap String.utf8EncodeChar

/-- The text of a byte string, where it is valid UTF-8. -/
def fromUtf8 (data : List UInt8) : Option (List Char) :=
  data.toByteArray.utf8Decode?.map Array.toList

def relay (frames : List (List UInt8)) : List Char :=
  (frames.filterMap fromUtf8).flatten

def Ascii (data : List UInt8) : Prop :=
  ∀ byte ∈ data, byte.toNat < 128

instance (data : List UInt8) : Decidable (Ascii data) :=
  inferInstanceAs (Decidable (∀ byte ∈ data, byte.toNat < 128))

/-! ## Decoding -/

@[simp]
theorem encode_nil : encode [] = [] := rfl

theorem encode_cons (char : Char) (text : List Char) :
    encode (char :: text) = String.utf8EncodeChar char ++ encode text := rfl

@[simp]
theorem encode_append (first second : List Char) :
    encode (first ++ second) = encode first ++ encode second := by
  simp [encode]

theorem fromUtf8_eq_some {data : List UInt8} {text : List Char} :
    fromUtf8 data = some text ↔ data = encode text := by
  have encoded (text : List Char) : text.utf8Encode = (encode text).toByteArray := rfl
  constructor
  · intro decoded
    obtain ⟨chars, decodedArray, rfl⟩ := Option.map_eq_some_iff.mp decoded
    have valid : data.toByteArray.utf8Decode?.isSome := by rw [decodedArray]; rfl
    have inverse := ByteArray.utf8Encode_get_utf8Decode? (h := valid)
    rw [Option.get_of_eq_some valid decodedArray, encoded] at inverse
    have bytes := congrArg (fun array : ByteArray => array.data.toList) inverse
    simpa using bytes.symm
  · rintro rfl
    unfold fromUtf8
    rw [← encoded, List.utf8Decode?_utf8Encode]
    rfl

theorem fromUtf8_encode (text : List Char) : fromUtf8 (encode text) = some text :=
  fromUtf8_eq_some.mpr rfl

theorem fromUtf8_eq_none {data : List UInt8} :
    fromUtf8 data = none ↔ ∀ text, data ≠ encode text := by
  rw [Option.eq_none_iff_forall_ne_some]
  simp only [ne_eq, fromUtf8_eq_some]

/-- A character's first byte tells itself apart from the bytes that continue a
character, and whether any follow. -/
theorem utf8EncodeChar_eq_cons (char : Char) :
    ∃ lead rest, String.utf8EncodeChar char = lead :: rest ∧ lead.IsUTF8FirstByte ∧
      (∀ byte ∈ rest, ¬ byte.IsUTF8FirstByte) ∧ (rest = [] ↔ lead.toNat < 128) := by
  cases shape : String.utf8EncodeChar char with
  | nil => exact absurd shape String.utf8EncodeChar_ne_nil
  | cons lead rest =>
      refine ⟨lead, rest, rfl, ?_, ?_, ?_⟩
      · have first := (@UInt8.isUTF8FirstByte_getElem_utf8EncodeChar char 0
          (by simp [shape])).mpr rfl
        simpa [shape] using first
      · intro byte member
        obtain ⟨index, inside, rfl⟩ := List.getElem_of_mem member
        have later := (@UInt8.isUTF8FirstByte_getElem_utf8EncodeChar char (index + 1)
          (by simpa [shape] using inside)).not.mpr (by simp)
        simpa [shape] using later
      · unfold String.utf8EncodeChar at shape
        dsimp only at shape
        split_ifs at shape with oneByte
        · obtain ⟨rfl, rfl⟩ := List.cons.inj shape
          simp only [UInt8.toNat_ofNat', true_iff]
          omega
        all_goals
          obtain ⟨rfl, rfl⟩ := List.cons.inj shape
          simp only [UInt8.toNat_ofNat', reduceCtorEq, false_iff]
          omega

theorem encode_of_ascii {data : List UInt8} (ascii : Ascii data) :
    encode (data.map fun byte => Char.ofNat byte.toNat) = data := by
  induction data with
  | nil => rfl
  | cons byte data ih =>
      have small := ascii byte (by simp)
      have code : (Char.ofNat byte.toNat).val.toNat = byte.toNat := by
        rw [Char.ofNat, dif_pos (Or.inl (by omega))]
        rfl
      have single : String.utf8EncodeChar (Char.ofNat byte.toNat) = [byte] := by
        unfold String.utf8EncodeChar
        simp only [code]
        rw [if_pos (by omega)]
        simp
      rw [List.map_cons, encode_cons, single,
        ih fun other member => ascii other (List.mem_cons_of_mem _ member)]
      rfl

theorem fromUtf8_of_ascii {data : List UInt8} (ascii : Ascii data) :
    fromUtf8 data = some (data.map fun byte => Char.ofNat byte.toNat) :=
  fromUtf8_eq_some.mpr (encode_of_ascii ascii).symm

theorem exists_wide_of_not_ascii {text : List Char} (notAscii : ¬ Ascii (encode text)) :
    ∃ before char after lead next rest, text = before ++ char :: after ∧
      String.utf8EncodeChar char = lead :: next :: rest := by
  induction text with
  | nil => exact absurd (by simp [Ascii]) notAscii
  | cons char text ih =>
      obtain ⟨lead, rest, shape, -, -, single⟩ := utf8EncodeChar_eq_cons char
      cases rest with
      | nil =>
          have small := single.mp rfl
          have later : ¬ Ascii (encode text) := by
            intro ascii
            apply notAscii
            rw [encode_cons, shape]
            intro byte member
            rcases List.mem_cons.mp member with rfl | member
            · exact small
            · exact ascii byte member
          obtain ⟨before, wide, after, lead, next, rest, rfl, wideShape⟩ := ih later
          exact ⟨char :: before, wide, after, lead, next, rest, rfl, wideShape⟩
      | cons next rest => exact ⟨[], char, text, lead, next, rest, rfl, shape⟩

theorem encode_ne_of_continuation {byte : UInt8} (continues : ¬ byte.IsUTF8FirstByte)
    (rest : List UInt8) (text : List Char) : byte :: rest ≠ encode text := by
  cases text with
  | nil => simp
  | cons char text =>
      obtain ⟨lead, tail, shape, first, -, -⟩ := utf8EncodeChar_eq_cons char
      rw [encode_cons, shape]
      intro same
      obtain ⟨rfl, -⟩ := List.cons.inj same
      exact continues first

theorem encode_ne_of_dangling {lead : UInt8} (first : lead.IsUTF8FirstByte)
    (wide : 128 ≤ lead.toNat) (before : List UInt8) (text : List Char) :
    before ++ [lead] ≠ encode text := by
  induction text using List.reverseRecOn with
  | nil => simp
  | append_singleton text char _ =>
      obtain ⟨start, tail, shape, -, continues, single⟩ := utf8EncodeChar_eq_cons char
      rw [encode_append, encode_cons, encode_nil, List.append_nil, shape]
      intro same
      rcases tail.eq_nil_or_concat with rfl | ⟨others, last, rfl⟩
      · have equal : [lead] = [start] := List.append_inj_right' same rfl
        obtain ⟨rfl, -⟩ := List.cons.inj equal
        have small := single.mp rfl
        omega
      · rw [List.concat_eq_append, ← List.cons_append, ← List.append_assoc] at same
        have equal : [lead] = [last] := List.append_inj_right' same rfl
        obtain ⟨rfl, -⟩ := List.cons.inj equal
        exact continues lead (by simp) first

/-- A stretch with a byte outside ASCII can be cut so that nothing of it is valid. -/
theorem exists_lost_frames {stretch : List UInt8} (notAscii : ¬ Ascii stretch) :
    ∃ frames : List (List UInt8), frames.flatten = stretch ∧ relay frames = [] := by
  cases decoded : fromUtf8 stretch with
  | none => exact ⟨[stretch], by simp, by simp [relay, decoded]⟩
  | some text =>
      obtain rfl := fromUtf8_eq_some.mp decoded
      obtain ⟨before, char, after, lead, next, rest, rfl, shape⟩ :=
        exists_wide_of_not_ascii notAscii
      obtain ⟨start, tail, sameShape, first, continues, single⟩ := utf8EncodeChar_eq_cons char
      rw [shape] at sameShape
      obtain ⟨rfl, rfl⟩ := List.cons.inj sameShape
      have wide : 128 ≤ lead.toNat := by
        by_contra small
        exact absurd (single.mpr (by omega)) (by simp)
      have headLost : fromUtf8 (encode before ++ [lead]) = none :=
        fromUtf8_eq_none.mpr (encode_ne_of_dangling first wide (encode before))
      have tailLost : fromUtf8 (next :: (rest ++ encode after)) = none :=
        fromUtf8_eq_none.mpr
          (encode_ne_of_continuation (continues next (by simp)) (rest ++ encode after))
      refine ⟨[encode before ++ [lead], next :: (rest ++ encode after)], ?_, ?_⟩
      · simp [encode_cons, shape]
      · simp [relay, headLost, tailLost]

/-! ## Residues -/

/-- The texts that can be left of a byte string. -/
inductive Residue : List UInt8 → List Char → Prop where
  | nil : Residue [] []
  | keep (char : Char) {data : List UInt8} {text : List Char} (rest : Residue data text) :
      Residue (String.utf8EncodeChar char ++ data) (char :: text)
  | drop {stretch : List UInt8} (notAscii : ¬ Ascii stretch) {data : List UInt8}
      {text : List Char} (rest : Residue data text) : Residue (stretch ++ data) text

theorem residue_append {before after : List UInt8} {first second : List Char}
    (earlier : Residue before first) (later : Residue after second) :
    Residue (before ++ after) (first ++ second) := by
  induction earlier with
  | nil => exact later
  | keep char _ ih =>
      rw [List.append_assoc]
      exact .keep char ih
  | drop notAscii _ ih =>
      rw [List.append_assoc]
      exact .drop notAscii ih

theorem residue_encode (text : List Char) : Residue (encode text) text := by
  induction text with
  | nil => exact .nil
  | cons char text ih => exact .keep char ih

/-- Bytes that are not all ASCII may be lost altogether. -/
theorem residue_nil {data : List UInt8} (notAscii : ¬ Ascii data) : Residue data [] := by
  have dropped := Residue.drop notAscii .nil
  rwa [List.append_nil] at dropped

theorem residue_relay (frames : List (List UInt8)) : Residue frames.flatten (relay frames) := by
  induction frames with
  | nil => exact .nil
  | cons frame frames ih =>
      rw [List.flatten_cons]
      cases decoded : fromUtf8 frame with
      | some text =>
          obtain rfl := fromUtf8_eq_some.mp decoded
          have forwarded : relay (encode text :: frames) = text ++ relay frames := by
            simp [relay, decoded]
          rw [forwarded]
          exact residue_append (residue_encode text) ih
      | none =>
          have forwarded : relay (frame :: frames) = relay frames := by
            simp [relay, decoded]
          have notAscii : ¬ Ascii frame := by
            intro ascii
            rw [fromUtf8_of_ascii ascii] at decoded
            cases decoded
          rw [forwarded]
          exact .drop notAscii ih

/-- Every residue is what some way of cutting the bytes lets through. -/
theorem exists_frames_of_residue {data : List UInt8} {text : List Char}
    (residue : Residue data text) :
    ∃ frames : List (List UInt8), frames.flatten = data ∧ relay frames = text := by
  induction residue with
  | nil => exact ⟨[], rfl, rfl⟩
  | keep char _ ih =>
      obtain ⟨frames, rfl, rfl⟩ := ih
      have decoded : fromUtf8 (String.utf8EncodeChar char) = some [char] :=
        fromUtf8_eq_some.mpr (by simp [encode])
      exact ⟨String.utf8EncodeChar char :: frames, by simp, by simp [relay, decoded]⟩
  | drop notAscii _ ih =>
      obtain ⟨frames, rfl, rfl⟩ := ih
      obtain ⟨lost, rfl, silent⟩ := exists_lost_frames notAscii
      refine ⟨lost ++ frames, by simp, ?_⟩
      have appended : relay (lost ++ frames) = relay lost ++ relay frames := by
        simp [relay]
      rw [appended, silent, List.nil_append]

theorem exists_split_of_residue {data : List UInt8} {text : List Char}
    (residue : Residue data text) {first second : List Char} (split : text = first ++ second) :
    ∃ before after, data = before ++ after ∧ Residue before first ∧ Residue after second := by
  induction residue generalizing first with
  | nil =>
      obtain ⟨rfl, rfl⟩ := List.append_eq_nil_iff.mp split.symm
      exact ⟨[], [], rfl, .nil, .nil⟩
  | keep char rest ih =>
      cases first with
      | nil =>
          obtain rfl : second = char :: _ := split.symm
          exact ⟨[], _, rfl, .nil, .keep char rest⟩
      | cons head first =>
          obtain ⟨rfl, splitRest⟩ := List.cons.inj split
          obtain ⟨before, after, rfl, kept, later⟩ := ih splitRest
          exact ⟨_, after, (List.append_assoc _ _ _).symm, .keep char kept, later⟩
  | drop notAscii rest ih =>
      obtain ⟨before, after, rfl, kept, later⟩ := ih split
      exact ⟨_, after, (List.append_assoc _ _ _).symm, .drop notAscii kept, later⟩

/-- Bytes that are not all ASCII can lose either part of what is left of them:
the part whose bytes are not all ASCII can be dropped. -/
theorem residue_part {data : List UInt8} (notAscii : ¬ Ascii data) {first second : List Char}
    (residue : Residue data (first ++ second)) : Residue data first ∨ Residue data second := by
  obtain ⟨before, after, rfl, kept, later⟩ := exists_split_of_residue residue rfl
  by_cases afterAscii : Ascii after
  · have beforeNotAscii : ¬ Ascii before := by
      intro beforeAscii
      apply notAscii
      intro byte member
      rcases List.mem_append.mp member with earlier | last
      · exact beforeAscii byte earlier
      · exact afterAscii byte last
    exact .inr (.drop beforeNotAscii later)
  · have kept := residue_append kept (residue_nil afterAscii)
    rw [List.append_nil] at kept
    exact .inl kept

@[simp]
theorem relay_encode (text : List Char) : relay [encode text] = text := by
  simp [relay, fromUtf8_encode]

/-- Frames that are all valid are relayed in full. -/
theorem encode_relay {frames : List (List UInt8)}
    (valid : ∀ frame ∈ frames, (fromUtf8 frame).isSome) :
    encode (relay frames) = frames.flatten := by
  induction frames with
  | nil => rfl
  | cons frame frames ih =>
      obtain ⟨text, decoded⟩ := Option.isSome_iff_exists.mp (valid frame (by simp))
      have forwarded : relay (frame :: frames) = text ++ relay frames := by
        simp [relay, decoded]
      rw [forwarded, encode_append, ih fun other member => valid other (by simp [member]),
        ← fromUtf8_eq_some.mp decoded, List.flatten_cons]

theorem relay_of_ascii {frames : List (List UInt8)} (ascii : Ascii frames.flatten) :
    relay frames = frames.flatten.map fun byte => Char.ofNat byte.toNat := by
  induction frames with
  | nil => rfl
  | cons frame frames ih =>
      have frameAscii : Ascii frame := fun byte member =>
        ascii byte (by simp [member])
      have restAscii : Ascii frames.flatten := fun byte member =>
        ascii byte (by rw [List.flatten_cons]; exact List.mem_append_right _ member)
      have forwarded : relay (frame :: frames) =
          (frame.map fun byte => Char.ofNat byte.toNat) ++ relay frames := by
        simp [relay, fromUtf8_of_ascii frameAscii]
      rw [forwarded, ih restAscii, List.flatten_cons, List.map_append]

end Utf8Relay
