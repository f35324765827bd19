import Mathlib.Data.List.DropRight
import RangeTest.Proofs.Text.Utf8
import RangeTest.Text.Lines
import RangeTest.Text.Parts

namespace RangeTest

/-- Text behind some bytes begins where a character begins, so it does not mend them. -/
theorem Text.isValidUTF8_append_iff (bytes : ByteArray) {text : ByteArray}
    (valid : text.IsValidUTF8) : (bytes ++ text).IsValidUTF8 ↔ bytes.IsValidUTF8 := by
  refine ⟨fun whole => ?_, fun first => first.append valid⟩
  obtain ⟨s, content⟩ : ∃ s : String, s.toByteArray = bytes ++ text := ⟨⟨_, whole⟩, rfl⟩
  have size : s.utf8ByteSize = bytes.size + text.size := by
    rw [← String.size_toByteArray, content, ByteArray.size_append]
  have boundary : String.Pos.Raw.IsValid s ⟨bytes.size⟩ := by
    rw [String.Pos.Raw.isValid_iff_isValidUTF8_extract_utf8ByteSize]
    refine ⟨String.Pos.Raw.le_iff.2 ?_, ?_⟩
    · rw [String.byteIdx_rawEndPos, size]
      exact Nat.le_add_right _ _
    · rw [content, ByteArray.extract_append_eq_right rfl size]
      exact valid
  have first := (String.Pos.Raw.isValid_iff_isValidUTF8_extract_zero.1 boundary).2
  rwa [content, ByteArray.extract_append_eq_left rfl] at first

theorem Text.toByteArray_encode (s : List Char) :
    (encode s).toByteArray = (String.ofList s).toByteArray := by
  rw [String.toByteArray_ofList, List.utf8Encode, encode]

theorem Text.decodeLine_append (bytes : List UInt8) (s : List Char) :
    decodeLine (bytes ++ encode s) = (decodeLine bytes).map (· ++ String.ofList s) := by
  have valid := isValidUTF8_append_iff bytes.toByteArray (String.ofList s).isValidUTF8
  rw [decodeLine, decodeLine, List.toByteArray_append, toByteArray_encode, String.fromUTF8?,
    String.fromUTF8?]
  by_cases first : bytes.toByteArray.IsValidUTF8
  · rw [dif_pos (valid.2 first), dif_pos first]
    have joined : String.fromUTF8 _ (valid.2 first) = String.fromUTF8 _ first ++ String.ofList s :=
      String.toByteArray_inj.1 (by rw [String.toByteArray_append]; rfl)
    exact congrArg Except.ok joined
  · rw [dif_neg (mt valid.1 first), dif_neg first]
    rfl

theorem Text.decodeLine_encode (s : List Char) : decodeLine (encode s) = .ok (String.ofList s) := by
  rw [decodeLine, toByteArray_encode, ← String.toUTF8_eq_toByteArray, fromUTF8?_toUTF8]

/-- A line feed ends a line. -/
theorem Text.byteLines_append {body : List UInt8} (oneLine : 10 ∉ body) (rest : List UInt8) :
    byteLines (body ++ 10 :: rest) = (body ++ [10]) :: byteLines rest := by
  induction body with
  | nil => rfl
  | cons b body ih =>
    rw [List.mem_cons, not_or] at oneLine
    have other : ¬ b = 10 := fun same => oneLine.1 same.symm
    change consByte b (byteLines (body ++ 10 :: rest)) = _
    rw [ih oneLine.2, consByte, if_neg other]
    rfl

/-- Lines that end in a line feed each and hold no other are the lines of what they make up. -/
theorem Text.byteLines_flatten {lines : List (List UInt8)}
    (terminated : ∀ line ∈ lines, ∃ body, 10 ∉ body ∧ line = body ++ [10]) :
    byteLines lines.flatten = lines := by
  induction lines with
  | nil => rfl
  | cons line lines ih =>
    rw [List.forall_mem_cons] at terminated
    obtain ⟨⟨body, oneLine, rfl⟩, others⟩ := terminated
    rw [List.flatten_cons, List.append_assoc, List.singleton_append, byteLines_append oneLine,
      ih others]

theorem Text.rawLines_flatten {lines : List (List UInt8)}
    (terminated : ∀ line ∈ lines, ∃ body, 10 ∉ body ∧ line = body ++ [10]) :
    rawLines lines.flatten.toByteArray = lines.map decodeLine := by
  rw [rawLines, List.data_toByteArray, byteLines_flatten terminated]

/-- Texts without a line feed that are written line by line are found again. -/
theorem Text.rawLines_encode {bodies : List (List Char)} (oneLine : ∀ body ∈ bodies, '\n' ∉ body) :
    rawLines (bodies.flatMap fun body => encode (body ++ ['\n'])).toByteArray =
      bodies.map fun body => .ok (String.ofList (body ++ ['\n'])) := by
  rw [List.flatMap_def, rawLines_flatten, List.map_map]
  · exact List.map_congr_left fun body _ => decodeLine_encode (body ++ ['\n'])
  · intro line member
    obtain ⟨body, inside, rfl⟩ := List.mem_map.1 member
    refine ⟨encode body, fun broken => oneLine body inside ?_, encode_append ..⟩
    exact mem_encode_of_short (by decide) rfl broken

theorem Text.byteLines_of_unbroken {body : List UInt8} (oneLine : 10 ∉ body) (some : body ≠ []) :
    byteLines body = [body] := by
  induction body with
  | nil => exact absurd rfl some
  | cons b body ih =>
    rw [List.mem_cons, not_or] at oneLine
    have other : ¬ b = 10 := fun same => oneLine.1 same.symm
    change consByte b (byteLines body) = _
    cases body with
    | nil => exact if_neg other
    | cons next body =>
      rw [ih oneLine.2 (List.cons_ne_nil _ _)]
      exact if_neg other

theorem Text.exists_decodeLine (s : List Char) : ∃ lines : List String,
    (byteLines (encode s)).map decodeLine = lines.map .ok ∧ String.join lines = .ofList s := by
  by_cases broken : '\n' ∈ s
  · obtain ⟨body, rest, split, oneLine⟩ := List.eq_append_cons_of_mem broken
    have shorter : rest.length < s.length := by
      rw [split, List.length_append, List.length_cons]
      omega
    obtain ⟨lines, decoded, joined⟩ := exists_decodeLine rest
    have unbroken : 10 ∉ encode body :=
      fun inside => oneLine (mem_encode_of_short (by decide) rfl inside)
    have first : encode s = encode body ++ 10 :: encode rest := by
      rw [split, encode_append, encode_cons]
      rfl
    have ended : encode body ++ [10] = encode (body ++ ['\n']) := by
      rw [encode_append]
      rfl
    refine ⟨.ofList (body ++ ['\n']) :: lines, ?_, ?_⟩
    · rw [first, byteLines_append unbroken, List.map_cons, decoded, ended, decodeLine_encode]
      rfl
    · rw [String.join_cons, joined, ← String.ofList_append, List.append_assoc, split]
      rfl
  · cases s with
    | nil => exact ⟨[], rfl, rfl⟩
    | cons c s =>
      have unbroken : 10 ∉ encode (c :: s) :=
        fun inside => broken (mem_encode_of_short (by decide) rfl inside)
      refine ⟨[.ofList (c :: s)], ?_, ?_⟩
      · rw [byteLines_of_unbroken unbroken (mt encode_eq_nil (List.cons_ne_nil _ _)),
          List.map_singleton, decodeLine_encode]
        rfl
      · rw [String.join_cons, String.join_nil, String.append_empty]
termination_by s.length

/-- Every line of a text can be read, and together they are the text. -/
theorem Text.exists_rawLines_toUTF8 (text : String) : ∃ lines : List String,
    rawLines text.toUTF8 = lines.map .ok ∧ String.join lines = text := by
  obtain ⟨lines, decoded, joined⟩ := exists_decodeLine text.toList
  refine ⟨lines, ?_, joined.trans (String.ofList_toList ..)⟩
  rw [rawLines, data_toUTF8, decoded]

theorem Text.isPrefix_trimEnd (s : List Char) : trimEnd s <+: s :=
  List.rdropWhile_prefix isBlank s

/-- Trimming stops in the second of two texts unless that is blank altogether. -/
theorem Text.trimEnd_append (s t : List Char) :
    trimEnd (s ++ t) = if trimEnd t = [] then trimEnd s else s ++ trimEnd t := by
  rw [trimEnd, List.reverse_append, List.dropWhile_append]
  cases rest : t.reverse.dropWhile isBlank with
  | nil =>
    rw [trimEnd, trimEnd, rest]
    rfl
  | cons c kept =>
    rw [trimEnd, trimEnd, rest]
    simp

theorem Text.length_trimEnd_append_le (s t : List Char) :
    (trimEnd (s ++ t)).length ≤ s.length + (trimEnd t).length := by
  rw [trimEnd_append]
  split
  · exact Nat.le_add_right_of_le (isPrefix_trimEnd s).length_le
  · rw [List.length_append]

/-- A text that ends in a character other than a blank is not trimmed. -/
theorem Text.trimEnd_eq_self {s : List Char}
    (ending : ∀ c, s.getLast? = some c → isBlank c = false) : trimEnd s = s := by
  refine List.rdropWhile_eq_self_iff.2 fun nonempty => ?_
  rw [ending _ (List.getLast?_eq_some_getLast nonempty)]
  decide

theorem Text.trimEnd_of_blank {s : List Char} (blank : ∀ c ∈ s, isBlank c = true) :
    trimEnd s = [] :=
  List.rdropWhile_eq_nil_iff.2 blank

end RangeTest
