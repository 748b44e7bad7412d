import DesignMarkup.Proofs.FilePath
import DesignMarkup.Storage
/-!
Paths that are text. No longer character has the byte of a slash in it, so that to join such paths byte by
byte is to join the texts.
-/
namespace DesignMarkup.SystemPath
open String (utf8EncodeChar)

theorem text?_ofText (s : String) : (ofText s).text? = some s := by
  have valid : (⟨(ofText s).bytes.toArray⟩ : ByteArray).IsValidUTF8 := s.isValidUTF8
  rw [text?, textOf?, String.fromUTF8?, dif_pos valid]
  rfl

theorem eq_ofText_of_text? {p : SystemPath} {s : String} (text : p.text? = some s) : p = ofText s := by
  rw [text?, textOf?, String.fromUTF8?] at text
  split at text
  · rw [← Option.some.inj text]
    rfl
  · cases text

theorem bytes_ofText (s : String) : (ofText s).bytes = s.toList.flatMap utf8EncodeChar := by
  rw [ofText, String.toUTF8, ← String.utf8Encode_toList, List.utf8Encode, List.data_toByteArray]

theorem slash_mem_encoded (c : Char) : 0x2f ∈ utf8EncodeChar c ↔ c = '/' := by
  have value : c = '/' ↔ c.val.toNat = 47 := by
    rw [← Char.val_inj, ← UInt32.toNat_inj]
    rfl
  rw [value]
  have byte (n : Nat) : 0x2f = UInt8.ofNat n ↔ n % 256 = 47 := by
    rw [← UInt8.toNat_inj, UInt8.toNat_ofNat']
    exact eq_comm
  unfold utf8EncodeChar
  dsimp only
  split
  · rw [List.mem_singleton, byte]
    omega
  split
  · simp only [List.mem_cons, List.not_mem_nil, or_false, byte]
    omega
  split
  · simp only [List.mem_cons, List.not_mem_nil, or_false, byte]
    omega
  · simp only [List.mem_cons, List.not_mem_nil, or_false, byte]
    omega

theorem byteChar_toNat (b : UInt8) : (Char.ofNat b.toNat).toNat = b.toNat := by
  have small : b.toNat.isValidChar := .inl (by have := b.toNat_lt; omega)
  rw [Char.ofNat, dif_pos small]
  rfl

theorem ofBytewise_bytewise (p : SystemPath) : ofBytewise p.bytewise = p := by
  rw [ofBytewise, bytewise, String.toList_ofList, List.map_map]
  have same : (fun c : Char => UInt8.ofNat c.toNat) ∘ (fun b : UInt8 => Char.ofNat b.toNat) = id :=
    funext fun b => by rw [Function.comp_apply, byteChar_toNat, UInt8.ofNat_toNat, id]
  rw [same, List.map_id]

theorem head?_encoded (cs : List Char) :
    (cs.flatMap utf8EncodeChar).head? = some 0x2f ↔ cs.head? = some '/' := by
  cases cs with
  | nil => simp
  | cons c rest =>
    obtain ⟨b, more, bytes⟩ := List.exists_cons_of_ne_nil (String.utf8EncodeChar_ne_nil (c := c))
    rw [List.flatMap_cons, bytes, List.cons_append, List.head?_cons, List.head?_cons, Option.some_inj,
      Option.some_inj]
    constructor
    · rintro rfl
      exact (slash_mem_encoded c).1 (bytes ▸ List.mem_cons_self)
    · rintro rfl
      exact (List.cons.inj bytes).1.symm

theorem getLast?_encoded (cs : List Char) :
    (cs.flatMap utf8EncodeChar).getLast? = some 0x2f ↔ cs.getLast? = some '/' := by
  obtain rfl | ⟨front, c, rfl⟩ := List.eq_nil_or_concat cs
  · simp
  · obtain none | ⟨more, b, bytes⟩ := List.eq_nil_or_concat (utf8EncodeChar c)
    · exact absurd none String.utf8EncodeChar_ne_nil
    rw [List.concat_eq_append] at bytes
    rw [List.concat_eq_append, List.flatMap_append, List.flatMap_singleton, bytes, ← List.append_assoc,
      List.getLast?_concat, List.getLast?_concat, Option.some_inj, Option.some_inj]
    constructor
    · rintro rfl
      exact (slash_mem_encoded c).1 (bytes ▸ List.mem_append_right more List.mem_cons_self)
    · rintro rfl
      have last := congrArg List.getLast? bytes
      rw [List.getLast?_concat] at last
      exact (Option.some.inj last).symm

theorem bytewise_toList (s : String) : (ofText s).bytewise.toList =
    (s.toList.flatMap utf8EncodeChar).map fun b => Char.ofNat b.toNat := by
  rw [bytewise, String.toList_ofList, bytes_ofText]

theorem byteChar_slash (b : UInt8) : Char.ofNat b.toNat = '/' ↔ b = 0x2f := by
  constructor
  · intro slash
    rw [← UInt8.toNat_inj, ← byteChar_toNat, slash]
    rfl
  · rintro rfl
    rfl

theorem startsWith_bytewise (s : String) :
    Text.startsWith (ofText s).bytewise "/" = Text.startsWith s "/" := by
  rw [Bool.eq_iff_iff, FilePath.startsWith_slash, FilePath.startsWith_slash, bytewise_toList,
    List.head?_map, Option.map_eq_some_iff]
  simp only [byteChar_slash, exists_eq_right, head?_encoded]

theorem endsWith_bytewise (s : String) :
    Text.endsWith (ofText s).bytewise "/" = Text.endsWith s "/" := by
  have last (t : String) : Text.endsWith t "/" = true ↔ t.toList.getLast? = some '/' := by
    rw [Text.endsWith, List.isSuffixOf_iff_suffix, List.getLast?_eq_some_iff]
    exact exists_congr fun _ => eq_comm
  rw [Bool.eq_iff_iff, last, last, bytewise_toList, List.getLast?_map, Option.map_eq_some_iff]
  simp only [byteChar_slash, exists_eq_right, getLast?_encoded]

theorem ofBytewise_append (s t : String) :
    ofBytewise (s ++ t) = ⟨(ofBytewise s).bytes ++ (ofBytewise t).bytes⟩ := by
  simp [ofBytewise]

theorem ofText_append (s t : String) : ofText (s ++ t) = ⟨(ofText s).bytes ++ (ofText t).bytes⟩ := by
  simp [ofText, String.toUTF8]

theorem bytewise_eq_empty (s : String) : (ofText s).bytewise = "" ↔ s = "" := by
  rw [← String.toList_eq_nil_iff, bytewise_toList, List.map_eq_nil_iff, List.flatMap_eq_nil_iff,
    ← String.toList_eq_nil_iff, List.eq_nil_iff_forall_not_mem]
  simp only [String.utf8EncodeChar_ne_nil, imp_false]

/-- Paths that are text are joined as texts. -/
theorem join_ofText (directory path : String) :
    (ofText directory).join (ofText path) = ofText (FilePath.join directory path) := by
  have slash : ofBytewise "/" = ofText "/" := rfl
  unfold join FilePath.join
  simp only [startsWith_bytewise, endsWith_bytewise, bytewise_eq_empty]
  split
  · exact ofBytewise_bytewise _
  split
  · rw [ofBytewise_append, ofBytewise_bytewise, ofBytewise_bytewise, ofText_append]
  · rw [ofBytewise_append, ofBytewise_append, ofBytewise_bytewise, ofBytewise_bytewise, slash,
      ofText_append, ofText_append]

theorem text?_join (directory path : String) :
    ((ofText directory).join (ofText path)).text? = some (FilePath.join directory path) := by
  rw [join_ofText, text?_ofText]

end DesignMarkup.SystemPath
