import CoopSpaces.Lib.Text

/-! Texts cut at byte offsets; an offset inside a character or past the end cuts nothing. -/

def byteLen : List Char → Nat
  | [] => 0
  | c :: text => c.utf8Size + byteLen text

/-- `&text[n..]`. -/
def dropBytes : Nat → List Char → Option (List Char)
  | 0, text => some text
  | _ + 1, [] => none
  | n + 1, c :: text => if c.utf8Size ≤ n + 1 then dropBytes (n + 1 - c.utf8Size) text else none

/-- `&text[..n]`. -/
def takeBytes : Nat → List Char → Option (List Char)
  | 0, _ => some []
  | _ + 1, [] => none
  | n + 1, c :: text => if c.utf8Size ≤ n + 1 then (takeBytes (n + 1 - c.utf8Size) text).map (c :: ·) else none

/-- The offset of the first occurrence. -/
def findBytes (name : List Char) : List Char → Option Nat
  | [] => if name = [] then some 0 else none
  | c :: text => if name <+: c :: text then some 0 else (findBytes name text).map (· + c.utf8Size)

-- the equations that the proofs below rewrite with
attribute [local simp] byteLen dropBytes takeBytes findBytes

variable {a b text name : List Char} {n : Nat}

theorem byteLen_append (a b : List Char) : byteLen (a ++ b) = byteLen a + byteLen b := by
  induction a with
  | nil => exact (Nat.zero_add _).symm
  | cons c a ih => rw [List.cons_append, byteLen, byteLen, ih, Nat.add_assoc]

theorem length_le_byteLen (text : List Char) : text.length ≤ byteLen text := by
  induction text with
  | nil => rfl
  | cons c text ih =>
    have positive := c.utf8Size_pos
    rw [List.length_cons, byteLen]
    omega

theorem utf8Size_toLower (c : Char) : c.toLower.utf8Size = c.utf8Size := by
  have code := toNat_toLower c
  have size : ∀ d : Char, d.toNat ≤ 127 → d.utf8Size = 1 := by
    intro d small
    have low : d.val ≤ 127 := UInt32.le_iff_toNat_le.mpr small
    exact if_pos low
  split at code
  next upper => rw [size c.toLower (by omega), size c (by omega)]
  next => rw [Char.toNat_inj.mp code]

theorem byteLen_map_toLower (text : List Char) : byteLen (text.map Char.toLower) = byteLen text := by
  induction text with
  | nil => rfl
  | cons c text ih => rw [List.map_cons, byteLen, byteLen, ih, utf8Size_toLower]

theorem dropBytes_append (a b : List Char) : dropBytes (byteLen a) (a ++ b) = some b := by
  induction a with
  | nil => rw [byteLen, dropBytes, List.nil_append]
  | cons c a ih =>
    obtain ⟨size, positive⟩ := Nat.exists_eq_add_of_lt c.utf8Size_pos
    rw [byteLen, List.cons_append, show c.utf8Size + byteLen a = (size + byteLen a) + 1 by omega, dropBytes,
      if_pos (by omega), show size + byteLen a + 1 - c.utf8Size = byteLen a by omega]
    exact ih

theorem takeBytes_append (a b : List Char) : takeBytes (byteLen a) (a ++ b) = some a := by
  induction a with
  | nil => rw [byteLen, takeBytes]
  | cons c a ih =>
    obtain ⟨size, positive⟩ := Nat.exists_eq_add_of_lt c.utf8Size_pos
    rw [byteLen, List.cons_append, show c.utf8Size + byteLen a = (size + byteLen a) + 1 by omega, takeBytes,
      if_pos (by omega), show size + byteLen a + 1 - c.utf8Size = byteLen a by omega, ih, Option.map_some]

theorem findBytes_eq_some (found : findBytes name text = some n) :
    ∃ before after, text = before ++ name ++ after ∧ n = byteLen before := by
  induction text generalizing n with
  | nil =>
    rw [findBytes] at found
    split at found
    next empty => exact ⟨[], [], by rw [empty]; rfl, (Option.some.inj found).symm⟩
    · cases found
  | cons c text ih =>
    rw [findBytes] at found
    split at found
    next here =>
      obtain ⟨after, rest⟩ := here
      exact ⟨[], after, rest.symm, (Option.some.inj found).symm⟩
    · obtain ⟨k, further, rfl⟩ := Option.map_eq_some_iff.mp found
      obtain ⟨before, after, rfl, rfl⟩ := ih further
      exact ⟨c :: before, after, rfl, Nat.add_comm _ _⟩
