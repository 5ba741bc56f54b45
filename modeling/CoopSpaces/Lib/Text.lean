import Mathlib.Data.List.DropRight
import Mathlib.Data.List.FinRange

/-- Identifiers with a canonical text that reads back; other texts may too. -/
class IdText (Id : Type) where
  toText : Id → String
  parseStr : String → Option Id
  parseStr_toText : ∀ id, parseStr (toText id) = some id

namespace IdText
variable {Id : Type} [IdText Id]

theorem toText_injective : Function.Injective (toText : Id → String) := by
  intro a b same
  have read := parseStr_toText a
  rw [same, parseStr_toText b] at read
  exact (Option.some.inj read).symm

theorem toText_inj {a b : Id} : toText a = toText b ↔ a = b := toText_injective.eq_iff

end IdText

/-- The characters with the property `White_Space`. -/
def isWhiteSpace (c : Char) : Bool :=
  let code := c.toNat
  decide (9 ≤ code ∧ code ≤ 13) || decide (8192 ≤ code ∧ code ≤ 8202) ||
    code ∈ [32, 133, 160, 5760, 8232, 8233, 8239, 8287, 12288]

def trim (s : String) : String :=
  String.ofList ((s.toList.dropWhile isWhiteSpace).reverse.dropWhile isWhiteSpace).reverse

theorem toNat_toLower (c : Char) : c.toLower.toNat = if 65 ≤ c.toNat ∧ c.toNat ≤ 90 then c.toNat + 32
    else c.toNat := by
  unfold Char.toLower
  split
  next upper =>
    have low : 65 ≤ c.toNat := upper.1
    have high : c.toNat ≤ 90 := upper.2
    rw [if_pos ⟨low, high⟩]
    show (c.val + 32).toNat = c.val.toNat + 32
    have small : c.val.toNat ≤ 90 := high
    rw [UInt32.toNat_add]
    show (c.val.toNat + 32) % 2 ^ 32 = c.val.toNat + 32
    omega
  next other =>
    refine (if_neg fun upper => other ?_).symm
    exact upper

theorem isWhiteSpace_of_letter {c : Char} (low : 65 ≤ c.toNat) (high : c.toNat ≤ 122) : isWhiteSpace c = false := by
  rw [← Bool.not_eq_true]
  intro blank
  simp only [isWhiteSpace, Bool.or_eq_true, decide_eq_true_eq, List.mem_cons, List.not_mem_nil, or_false] at blank
  omega

theorem isWhiteSpace_toLower (c : Char) : isWhiteSpace c.toLower = isWhiteSpace c := by
  have code := toNat_toLower c
  split at code
  next upper => rw [isWhiteSpace_of_letter (by omega) (by omega), isWhiteSpace_of_letter upper.1 (by omega)]
  · rw [Char.toNat_inj.mp code]

theorem toLower_toLower (c : Char) : c.toLower.toLower = c.toLower := by
  have once := toNat_toLower c
  have twice := toNat_toLower c.toLower
  refine Char.toNat_inj.mp ?_
  split at once <;> split at twice <;> omega

theorem toList_trim (s : String) :
    (trim s).toList = (s.toList.dropWhile isWhiteSpace).rdropWhile isWhiteSpace := String.toList_ofList

/-- A trimmed text does not begin with white space. -/
theorem dropWhile_toList_trim (s : String) : (trim s).toList.dropWhile isWhiteSpace = (trim s).toList := by
  rw [toList_trim]
  have first := List.head?_dropWhile_not isWhiteSpace s.toList
  have front := List.rdropWhile_prefix isWhiteSpace (s.toList.dropWhile isWhiteSpace)
  generalize s.toList.dropWhile isWhiteSpace = rest at first front
  rcases kept : rest.rdropWhile isWhiteSpace with _ | ⟨c, more⟩
  · rfl
  · rw [kept] at front
    obtain ⟨tail, rfl⟩ := front
    exact List.dropWhile_cons_of_neg (by simpa using first)

theorem rdropWhile_map {f : Char → Char} (same : ∀ c, isWhiteSpace (f c) = isWhiteSpace c) (l : List Char) :
    (l.map f).rdropWhile isWhiteSpace = (l.rdropWhile isWhiteSpace).map f := by
  have alike : isWhiteSpace ∘ f = isWhiteSpace := funext same
  rw [List.rdropWhile, ← List.map_reverse, List.dropWhile_map, alike, ← List.map_reverse, List.rdropWhile]

/-- Trimming again after a change of letters does nothing more. -/
theorem trim_map {f : Char → Char} (same : ∀ c, isWhiteSpace (f c) = isWhiteSpace c) (s : String) :
    trim ((trim s).map f) = (trim s).map f := by
  have alike : isWhiteSpace ∘ f = isWhiteSpace := funext same
  have again : (trim s).toList.rdropWhile isWhiteSpace = (trim s).toList := by
    rw [toList_trim, List.rdropWhile_idempotent]
  refine String.toList_inj.mp ?_
  rw [toList_trim, String.toList_map, List.dropWhile_map, alike, dropWhile_toList_trim, rdropWhile_map same, again]

/-- Of two joins at a mark that neither front holds, the parts are the same. -/
theorem join_inj_of_fronts {α : Type} {bar : α} {front back front' back' : List α} (free : bar ∉ front)
    (free' : bar ∉ front')
    (same : front ++ bar :: back = front' ++ bar :: back') : front = front' ∧ back = back' := by
  rcases List.append_eq_append_iff.mp same with ⟨between, rfl, rest⟩ | ⟨between, rfl, rest⟩
  · cases between with
    | nil => exact ⟨(List.append_nil front).symm, (List.cons.inj rest).2⟩
    | cons first more =>
      obtain rfl := (List.cons.inj rest).1
      exact absurd (List.mem_append_right front (List.mem_cons_self ..)) free'
  · cases between with
    | nil => exact ⟨List.append_nil front', (List.cons.inj rest).2.symm⟩
    | cons first more =>
      obtain rfl := (List.cons.inj rest).1
      exact absurd (List.mem_append_right front' (List.mem_cons_self ..)) free

/-- The same at a mark that neither back holds. -/
theorem join_inj_of_backs {α : Type} {bar : α} {front back front' back' : List α} (free : bar ∉ back)
    (free' : bar ∉ back')
    (same : front ++ bar :: back = front' ++ bar :: back') : front = front' ∧ back = back' := by
  rcases List.append_eq_append_iff.mp same with ⟨between, rfl, rest⟩ | ⟨between, rfl, rest⟩
  · cases between with
    | nil => exact ⟨(List.append_nil front).symm, (List.cons.inj rest).2⟩
    | cons first more =>
      have tail : back = more ++ bar :: back' := (List.cons.inj rest).2
      exact absurd (tail ▸ List.mem_append_right more (List.mem_cons_self ..)) free
  · cases between with
    | nil => exact ⟨List.append_nil front', (List.cons.inj rest).2.symm⟩
    | cons first more =>
      have tail : back' = more ++ bar :: back := (List.cons.inj rest).2
      exact absurd (tail ▸ List.mem_append_right more (List.mem_cons_self ..)) free'

def hexChar (digit : Fin 16) : Char :=
  if digit.val < 10 then Char.ofNat (48 + digit.val) else Char.ofNat (87 + digit.val)

def hexValue (c : Char) : Option (Fin 16) := (List.finRange 16).find? fun digit => hexChar digit == c.toLower

theorem hexValue_hexChar : ∀ digit, hexValue (hexChar digit) = some digit := by decide

def hexEncode (bytes : List UInt8) : String :=
  String.ofList (bytes.flatMap fun byte =>
    [hexChar (Fin.ofNat 16 (byte.toNat / 16)), hexChar (Fin.ofNat 16 (byte.toNat % 16))])

theorem length_hexEncode (bytes : List UInt8) : (hexEncode bytes).length = 2 * bytes.length := by
  rw [hexEncode, String.length_ofList]
  induction bytes with
  | nil => rfl
  | cons byte rest ih =>
    simp only [List.flatMap_cons, List.length_append, List.length_cons, List.length_nil] at ih ⊢
    omega

theorem hexEncode_ne_empty {bytes : List UInt8} (some_ : bytes ≠ []) : hexEncode bytes ≠ "" := by
  intro empty
  have length := length_hexEncode bytes
  have positive := List.length_pos_of_ne_nil some_
  rw [empty, String.length_empty] at length
  omega

theorem hexChar_injective : Function.Injective hexChar := by
  intro a b same
  have read := hexValue_hexChar a
  rw [same, hexValue_hexChar b] at read
  exact (Option.some.inj read).symm

theorem hexEncode_injective : Function.Injective hexEncode := by
  intro a b same
  have chars := String.ofList_injective same
  induction a generalizing b with
  | nil =>
    cases b with
    | nil => rfl
    | cons => simp at chars
  | cons byte rest ih =>
    cases b with
    | nil => simp at chars
    | cons other others =>
      simp only [List.flatMap_cons, List.cons_append, List.nil_append, List.cons.injEq] at chars
      obtain ⟨high, low, tail⟩ := chars
      have sameHigh := congrArg Fin.val (hexChar_injective high)
      have sameLow := congrArg Fin.val (hexChar_injective low)
      simp only [Fin.ofNat] at sameHigh sameLow
      have bound := byte.toNat_lt
      have otherBound := other.toNat_lt
      have sameByte : byte = other := UInt8.toNat_inj.mp (by omega)
      rw [sameByte, ih _ tail]
      exact congrArg String.ofList tail

/-- Byte equality that reads every byte before it answers. -/
def constantTimeEq (a b : List UInt8) : Bool :=
  if a.length ≠ b.length then false
  else (a.zip b).foldl (fun diff pair => diff ||| (pair.1 ^^^ pair.2)) 0 == 0

/-- The same for two strings, over their UTF-8 bytes. -/
def constantTimeStrEq (a b : String) : Bool := constantTimeEq a.toByteArray.data.toList b.toByteArray.data.toList

theorem foldl_or_xor_eq_zero (pairs : List (UInt8 × UInt8)) (start : UInt8) :
    pairs.foldl (fun diff pair => diff ||| (pair.1 ^^^ pair.2)) start = 0 ↔
      start = 0 ∧ ∀ pair ∈ pairs, pair.1 = pair.2 := by
  induction pairs generalizing start with
  | nil => simp
  | cons pair rest ih =>
    rw [List.foldl_cons, ih, UInt8.or_eq_zero_iff, UInt8.xor_eq_zero_iff]
    simp [and_assoc]

theorem constantTimeEq_iff {a b : List UInt8} : constantTimeEq a b = true ↔ a = b := by
  unfold constantTimeEq
  constructor
  · intro equal
    split at equal
    · exact Bool.noConfusion equal
    · rename_i sameLength
      have agree := ((foldl_or_xor_eq_zero _ _).mp (beq_iff_eq.mp equal)).2
      refine List.ext_getElem (Decidable.not_not.mp sameLength) ?_
      intro i inA inB
      have pair : (a[i], b[i]) ∈ a.zip b := by
        rw [← List.getElem_zip (h := by simpa using ⟨inA, inB⟩)]
        exact List.getElem_mem _
      exact agree _ pair
  · rintro rfl
    rw [if_neg (by simp), beq_iff_eq]
    refine (foldl_or_xor_eq_zero _ _).mpr ⟨rfl, ?_⟩
    intro pair member
    obtain ⟨i, bound, rfl⟩ := List.getElem_of_mem member
    rw [List.getElem_zip]

theorem constantTimeStrEq_iff {a b : String} : constantTimeStrEq a b = true ↔ a = b := by
  rw [constantTimeStrEq, constantTimeEq_iff, Array.toList_inj, ← ByteArray.ext_iff, String.toByteArray_inj]

/-- A 128-bit identifier, as its thirty-two hexadecimal digits. -/
structure HexId where
  digits : List (Fin 16)
  length_digits : digits.length = 32
  deriving DecidableEq

/-- Identifiers are ordered as their digits read. -/
def HexId.before (a b : HexId) : Bool := a.digits.lex b.digits fun x y => decide (x.val < y.val)

instance : LE HexId := ⟨fun a b => b.before a = false⟩

instance : DecidableLE HexId := fun a b => inferInstanceAs (Decidable (b.before a = false))

namespace HexId

def hyphenate {α : Type} (hyphen : α) (cs : List α) : List α :=
  cs.take 8 ++ hyphen :: ((cs.drop 8).take 4 ++ hyphen :: ((cs.drop 12).take 4 ++ hyphen ::
    ((cs.drop 16).take 4 ++ hyphen :: cs.drop 20)))

def dehyphenate (cs : List Char) : Option (List Char) :=
  if cs[8]? = some '-' ∧ cs[13]? = some '-' ∧ cs[18]? = some '-' ∧ cs[23]? = some '-' then
    some (cs.take 8 ++ (cs.drop 9).take 4 ++ (cs.drop 14).take 4 ++ (cs.drop 19).take 4 ++ cs.drop 24)
  else none

def toText (id : HexId) : String := String.ofList (hyphenate '-' (id.digits.map hexChar))

def ofDigits (digits : List (Fin 16)) : Option HexId :=
  if length_digits : digits.length = 32 then some ⟨digits, length_digits⟩ else none

/-- The simple form, the hyphenated one, and the hyphenated one in braces or
behind `urn:uuid:`; digits in either case. -/
def parseStr (text : String) : Option HexId :=
  let cs := text.toList
  let bare :=
    if cs.length = 32 then some cs
    else if cs.length = 36 then dehyphenate cs
    else if cs.length = 38 ∧ cs[0]? = some '{' ∧ cs[37]? = some '}' then dehyphenate ((cs.drop 1).take 36)
    else if cs.length = 45 ∧ cs.take 9 = "urn:uuid:".toList then dehyphenate (cs.drop 9)
    else none
  bare.bind fun digits => (digits.mapM hexValue).bind ofDigits

theorem length_hyphenate {α : Type} (hyphen : α) {cs : List α} (size : cs.length = 32) :
    (hyphenate hyphen cs).length = 36 := by
  simp only [hyphenate, List.length_append, List.length_cons, List.length_take, List.length_drop, size]
  decide

theorem length_toText (id : HexId) : id.toText.length = 36 := by
  have size : (id.digits.map hexChar).length = 32 := by rw [List.length_map, id.length_digits]
  rw [toText, String.length_ofList, length_hyphenate '-' size]

theorem groups {α : Type} (cs : List α) :
    cs.take 8 ++ ((cs.drop 8).take 4 ++ ((cs.drop 12).take 4 ++ ((cs.drop 16).take 4 ++ cs.drop 20))) = cs := by
  have next : ∀ n, (cs.drop n).take 4 ++ cs.drop (n + 4) = cs.drop n := by
    intro n
    rw [← List.drop_drop, List.take_append_drop]
  rw [next 16, next 12, next 8, List.take_append_drop]

theorem dehyphenate_hyphenate {cs : List Char} (size : cs.length = 32) :
    dehyphenate (hyphenate '-' cs) = some cs := by
  have hyphens : (hyphenate '-' cs)[8]? = some '-' ∧ (hyphenate '-' cs)[13]? = some '-' ∧
      (hyphenate '-' cs)[18]? = some '-' ∧ (hyphenate '-' cs)[23]? = some '-' := by
    simp [hyphenate, size]
  rw [dehyphenate, if_pos hyphens]
  refine congrArg some (Eq.trans ?_ (groups cs))
  simp [hyphenate, List.drop_append, List.drop_take, size]

theorem mapM_hexValue (digits : List (Fin 16)) : (digits.map hexChar).mapM hexValue = some digits := by
  induction digits with
  | nil => rfl
  | cons digit rest ih => simp [List.mapM_cons, hexValue_hexChar, ih]

theorem parseStr_toText (id : HexId) : parseStr id.toText = some id := by
  have size : (id.digits.map hexChar).length = 32 := by rw [List.length_map, id.length_digits]
  have long := length_hyphenate '-' size
  have bare := dehyphenate_hyphenate size
  simp only [parseStr, toText, String.toList_ofList, long, bare, if_true, Nat.reduceEqDiff, if_false,
    Option.bind_some, mapM_hexValue, ofDigits, id.length_digits, dite_true]

instance : IdText HexId where
  toText := toText
  parseStr := parseStr
  parseStr_toText := parseStr_toText

/-- The nil identifier. -/
instance : Inhabited HexId := ⟨⟨List.replicate 32 ⟨0, by decide⟩, by decide⟩⟩

/-- The identifier with one digit throughout. -/
def repeating (digit : Nat) : HexId :=
  ⟨List.replicate 32 ⟨digit % 16, Nat.mod_lt digit (by decide)⟩, List.length_replicate⟩

end HexId
