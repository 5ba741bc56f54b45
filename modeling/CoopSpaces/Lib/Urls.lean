import CoopSpaces.Lib.Text

/-- The octets of a text in UTF-8. -/
def utf8 (text : List Char) : List UInt8 := text.flatMap String.utf8EncodeChar

section Marks
variable {α : Type} [DecidableEq α] {mark : α} {front : List α}

theorem decide_ne_of_not_mem (free : mark ∉ front) : ∀ a ∈ front, decide (a ≠ mark) = true :=
  fun _ there => decide_eq_true fun same => free (same ▸ there)

/-- A text taken up to a mark that is not in its front. -/
theorem takeWhile_ne_append_cons (free : mark ∉ front) (back : List α) :
    (front ++ mark :: back).takeWhile (· ≠ mark) = front := by
  rw [List.takeWhile_append_of_pos (decide_ne_of_not_mem free)]
  simp

theorem dropWhile_ne_append_cons (free : mark ∉ front) (back : List α) :
    (front ++ mark :: back).dropWhile (· ≠ mark) = mark :: back := by
  rw [List.dropWhile_append_of_pos (decide_ne_of_not_mem free)]
  simp

theorem takeWhile_ne_of_not_mem (free : mark ∉ front) : front.takeWhile (· ≠ mark) = front :=
  List.takeWhile_eq_self_iff.mpr (decide_ne_of_not_mem free)

theorem dropWhile_ne_of_not_mem (free : mark ∉ front) : front.dropWhile (· ≠ mark) = [] :=
  List.dropWhile_eq_nil_iff.mpr (decide_ne_of_not_mem free)

end Marks

/-! The parts of a URL as RFC 3986 has them: the fragment starts at the first `#`, and in
what is before it the query starts at the first `?`. -/
namespace Url

def beforeFragment (url : List Char) : List Char := url.takeWhile (· ≠ '#')

def fragment (url : List Char) : Option (List Char) := (url.dropWhile (· ≠ '#')).tail?

def path (url : List Char) : List Char := (beforeFragment url).takeWhile (· ≠ '?')

def query (url : List Char) : Option (List Char) := ((beforeFragment url).dropWhile (· ≠ '?')).tail?

def percentDecode : List Char → List UInt8
  | [] => []
  | '%' :: high :: low :: rest =>
    match hexValue high, hexValue low with
    | some h, some l => UInt8.ofNat (16 * h.val + l.val) :: percentDecode rest
    | _, _ => String.utf8EncodeChar '%' ++ percentDecode (high :: low :: rest)
  | c :: rest => String.utf8EncodeChar c ++ percentDecode rest

/-- A piece of a query: its name, and its value after the first `=`. -/
def parameter (piece : List Char) : List UInt8 × List UInt8 :=
  (percentDecode (piece.takeWhile (· ≠ '=')), percentDecode (piece.dropWhile (· ≠ '=')).tail)

def parameters (url : List Char) : List (List UInt8 × List UInt8) :=
  match query url with
  | none => []
  | some query => (query.splitOn '&').map parameter

variable {front back query : List Char}

theorem percentDecode_cons {c : Char} (plain : c ≠ '%') (rest : List Char) :
    percentDecode (c :: rest) = String.utf8EncodeChar c ++ percentDecode rest := by
  rw [percentDecode]
  rintro high low rest' rfl
  exact (plain rfl).elim

theorem percentDecode_escape {high low : Char} {h l : Fin 16} (isHigh : hexValue high = some h)
    (isLow : hexValue low = some l)
    (rest : List Char) : percentDecode ('%' :: high :: low :: rest) =
      UInt8.ofNat (16 * h.val + l.val) :: percentDecode rest := by
  rw [percentDecode, isHigh, isLow]

theorem percentDecode_of_not_mem {text : List Char} (plain : '%' ∉ text) : percentDecode text = utf8 text := by
  induction text with
  | nil => rfl
  | cons c rest ih =>
    rw [List.mem_cons, not_or] at plain
    rw [percentDecode_cons (Ne.symm plain.1), ih plain.2]
    rfl

theorem parameter_join {name : List Char} (free : '=' ∉ name) (value : List Char) :
    parameter (name ++ '=' :: value) = (percentDecode name, percentDecode value) := by
  rw [parameter, takeWhile_ne_append_cons free, dropWhile_ne_append_cons free, List.tail_cons]

theorem beforeFragment_of_not_mem (none_ : '#' ∉ front) : beforeFragment front = front :=
  takeWhile_ne_of_not_mem none_

theorem fragment_of_not_mem (none_ : '#' ∉ front) : fragment front = none := by
  rw [fragment, dropWhile_ne_of_not_mem none_, List.tail?_nil]

theorem fragment_append_of_mem {url : List Char} (there : '#' ∈ url) (more : List Char) :
    ∃ kept, fragment url = some kept ∧ fragment (url ++ more) = some (kept ++ more) := by
  obtain ⟨before, after, rfl, free⟩ := List.eq_append_cons_of_mem there
  refine ⟨after, ?_, ?_⟩
  · rw [fragment, dropWhile_ne_append_cons free, List.tail?_cons]
  · rw [fragment, List.append_assoc, List.cons_append, dropWhile_ne_append_cons free, List.tail?_cons]

/-- What a query adds to a URL without fragment: its pieces, behind those the URL has. -/
theorem parameters_join (noFragment : '#' ∉ front) (noQuery : '?' ∉ front) (plain : '#' ∉ query) :
    path (front ++ '?' :: query) = front ∧ fragment (front ++ '?' :: query) = none ∧
      parameters (front ++ '?' :: query) = (query.splitOn '&').map parameter := by
  have plain' : '#' ∉ front ++ '?' :: query := by simp [noFragment, plain]
  refine ⟨?_, fragment_of_not_mem plain', ?_⟩
  · rw [path, beforeFragment_of_not_mem plain', takeWhile_ne_append_cons noQuery]
  · rw [parameters, Url.query, beforeFragment_of_not_mem plain', dropWhile_ne_append_cons noQuery]
    rfl

theorem parameters_of_not_mem (noFragment : '#' ∉ front) (noQuery : '?' ∉ front) :
    path front = front ∧ parameters front = [] := by
  refine ⟨?_, ?_⟩
  · rw [path, beforeFragment_of_not_mem noFragment, takeWhile_ne_of_not_mem noQuery]
  · rw [parameters, Url.query, beforeFragment_of_not_mem noFragment, dropWhile_ne_of_not_mem noQuery]
    rfl

end Url
