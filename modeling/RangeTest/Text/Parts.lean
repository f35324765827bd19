namespace RangeTest

/-- The 25 characters that carry the Unicode property White_Space. -/
def Text.isBlank (c : Char) : Bool :=
  let n := c.toNat
  (0x09 ≤ n && n ≤ 0x0D) || n == 0x20 || n == 0x85 || n == 0xA0 || n == 0x1680 ||
    (0x2000 ≤ n && n ≤ 0x200A) || n == 0x2028 || n == 0x2029 || n == 0x202F || n == 0x205F ||
    n == 0x3000

def Text.trimStart (s : List Char) : List Char :=
  s.dropWhile isBlank

def Text.trimEnd (s : List Char) : List Char :=
  (s.reverse.dropWhile isBlank).reverse

def Text.trim (s : List Char) : List Char :=
  trimEnd (trimStart s)

/-- What stands between one blank and the next, empty stretches included. -/
def Text.stretches : List Char → List (List Char)
  | [] => [[]]
  | c :: rest =>
    if isBlank c then [] :: stretches rest else (stretches rest).modifyHead (c :: ·)

/-- The words of a text: its stretches of characters that are not blank. -/
def Text.words (s : List Char) : List (List Char) :=
  (stretches s).filter (!·.isEmpty)

/-- The text before and after the first occurrence of a mark. The empty mark occurs at the very
beginning of every text. -/
def Text.cut? (mark : List Char) : List Char → Option (List Char × List Char)
  | [] => if mark.isEmpty then some ([], []) else none
  | c :: rest =>
    if mark.isPrefixOf (c :: rest) then some ([], (c :: rest).drop mark.length)
    else (cut? mark rest).map fun (before, after) => (c :: before, after)

/-- A cut loses nothing but the mark. -/
theorem Text.eq_append_of_cut? {mark s before after : List Char}
    (h : cut? mark s = some (before, after)) : s = before ++ mark ++ after := by
  induction s generalizing before after with
  | nil =>
    cases mark with
    | nil => simp_all [cut?]
    | cons m ms => simp [cut?] at h
  | cons c rest ih =>
    rw [cut?] at h
    split at h
    · rename_i occurs
      obtain ⟨tail, whole⟩ := List.isPrefixOf_iff_prefix.1 occurs
      simp only [Option.some.injEq, Prod.mk.injEq] at h
      obtain ⟨rfl, rfl⟩ := h
      rw [← whole, List.drop_left, List.nil_append]
    · obtain ⟨⟨b, a⟩, inner, pair⟩ := Option.map_eq_some_iff.1 h
      simp only [Prod.mk.injEq] at pair
      obtain ⟨rfl, rfl⟩ := pair
      simp [ih inner]

/-- The fields of a row, which stand between one comma with a space and the next. -/
def Text.fields : List Char → List (List Char)
  | [] => [[]]
  | ',' :: ' ' :: rest => [] :: fields rest
  | c :: rest => (fields rest).modifyHead (c :: ·)

/-- Fields written side by side, a comma and a space between neighbours. -/
def Text.unfields : List (List Char) → List Char
  | [] => []
  | [field] => field
  | field :: rest => field ++ ',' :: ' ' :: unfields rest

theorem Text.fields_ne_nil (s : List Char) : fields s ≠ [] := by
  fun_induction fields s with
  | case1 => simp
  | case2 => simp
  | case3 c rest _ ih => cases h : fields rest <;> simp_all

/-- Writing the fields of a row side by side gives the row back. -/
theorem Text.unfields_fields (s : List Char) : unfields (fields s) = s := by
  fun_induction fields s with
  | case1 => rfl
  | case2 rest ih =>
    cases h : fields rest with
    | nil => exact absurd h (fields_ne_nil rest)
    | cons f fs =>
      change ',' :: ' ' :: unfields (f :: fs) = ',' :: ' ' :: rest
      rw [← h, ih]
  | case3 c rest _ ih =>
    cases h : fields rest with
    | nil => exact absurd h (fields_ne_nil rest)
    | cons f fs =>
      rw [h] at ih
      cases fs <;> simp_all [unfields]

end RangeTest
