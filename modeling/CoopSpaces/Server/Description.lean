import CoopSpaces.Lib.Brackets
import CoopSpaces.Lib.Slices
import CoopSpaces.Lib.Urls

namespace CoopSpaces.Description

abbrev Href := List Char

/-- The loop that looks for an attribute, from a byte on. Nothing where a slice panics, or where
it is not done after so many turns. -/
def attributeFrom (body name : List Char) : Nat → Nat → Option (Option (List Char))
  | 0, _ => none
  | fuel + 1, origin => do
    let lower := body.map Char.toLower
    let rest ← dropBytes origin lower
    match findBytes name rest with
    | none => some none
    | some offset =>
      let start := origin + offset
      let before ← takeBytes start lower
      -- or it is the tail of another attribute's name
      let precededOk := start = 0 ∨ before.getLast?.any isWhiteSpace
      let after ← dropBytes (start + byteLen name) body
      let trimmed := after.dropWhile isWhiteSpace
      if precededOk ∧ trimmed.head? = some '=' then do
        let value ← dropBytes 1 trimmed
        let value := value.dropWhile isWhiteSpace
        let quoted := value.head?.filter fun c => c = '"' ∨ c = '\''
        let value ← match quoted with
          | some quote => (dropBytes 1 value).map fun rest => rest.takeWhile (· ≠ quote)
          | none => some (value.takeWhile (· ∉ " \t\n".toList))
        some (if value = [] then none else some value)
      else attributeFrom body name fuel (start + byteLen name)

def attributeOf (body name : List Char) : Option (Option (List Char)) := attributeFrom body name (byteLen body + 1) 0

/-- What every tag but an anchor becomes. -/
def plainMarkdown (name : List Char) (closing : Bool) : Option (List Char) :=
  if name = "br".toList then some "\n".toList
  else if name ∈ ["p".toList, "div".toList, "tr".toList] then some "\n\n".toList
  else if name ∈ ["ul".toList, "ol".toList, "table".toList] then some "\n\n".toList
  else if name = "li".toList then if closing then none else some "\n- ".toList
  else if name ∈ ["b".toList, "strong".toList] then some "**".toList
  else if name ∈ ["i".toList, "em".toList] then some "*".toList
  else if name ∈ ["h1".toList, "h2".toList, "h3".toList, "h4".toList, "h5".toList, "h6".toList] then
    some (if closing then "**\n\n".toList else "\n\n**".toList)
  else none

def trimChars (text : List Char) : List Char := (text.dropWhile isWhiteSpace).rdropWhile isWhiteSpace

/-- A tag without the slashes before its name. -/
def tagBody (tag : List Char) : List Char := (trimChars tag).dropWhile (· = '/')

def tagName (tag : List Char) : List Char := ((tagBody tag).takeWhile (· ∉ " \t\n/".toList)).map Char.toLower

/-- An address without the marks that would end its place. -/
def destination (href : Href) : List Char := href.filter fun c => c ≠ '<' ∧ c ≠ '>'

/-- What one tag becomes, and the links open after it. -/
def replacement (tag : List Char) (linkHrefs : List (Option Href)) :
    Option (Option (List Char) × List (Option Href)) :=
  if (trimChars tag).head? = some '!' then some (none, linkHrefs)
  else
    let closing := decide ((trimChars tag).head? = some '/')
    if tagName tag = "a".toList then
      if closing then
        match linkHrefs with
        | some href :: rest => some (some ("](<".toList ++ destination href ++ ">)".toList), rest)
        | none :: rest => some (some [], rest)
        | [] => some (some [], [])
      else do
        let href ← attributeOf (tagBody tag) "href".toList
        some (some (if href.isSome then "[".toList else []), href :: linkHrefs)
    else some (plainMarkdown (tagName tag) closing, linkHrefs)

def escapeChar (c : Char) : List Char :=
  if c = '<' then "&lt;".toList else if c = '>' then "&gt;".toList else [c]

def escape (text : List Char) : List Char := text.flatMap escapeChar

structure Scanner where
  out : List Char
  text : List Char
  linkHrefs : List (Option Href)

def Scanner.flush (s : Scanner) : Scanner := { s with out := s.out ++ escape s.text, text := [] }

/-- Whether what follows a `<` could be a tag name. -/
def opensATag (rest : List Char) : Bool := rest.head?.any fun c => c.isAlpha || c == '/' || c == '!'

/-- `&text[first..last]` over characters. -/
def between (text : List Char) (first last : Nat) : Option (List Char) :=
  if first ≤ last ∧ last ≤ text.length then some ((text.take last).drop first) else none

/-- The loop over the characters that are left. -/
def scanFrom : Nat → List Char → Scanner → Option Scanner
  | _, [], s => some s
  | 0, _ :: _, _ => none
  | fuel + 1, c :: rest, s =>
    if c ≠ '<' then scanFrom fuel rest { s with text := s.text ++ [c] }
    else
      match if opensATag rest then (c :: rest).findIdx? (· = '>') else none with
      | none => scanFrom fuel rest { s with text := s.text ++ ['<'] }
      | some close => do
        let tag ← between (c :: rest) 1 close
        let s := s.flush
        let (markdown, linkHrefs) ← replacement tag s.linkHrefs
        scanFrom fuel ((c :: rest).drop (close + 1)) { s with out := s.out ++ markdown.getD [], linkHrefs }

/-- No more than two line breaks at once. -/
def collapse : Nat → List Char → List Char
  | _, [] => []
  | newlines, c :: rest =>
    if c = '\n' then (if newlines + 1 ≤ 2 then ['\n'] else []) ++ collapse (newlines + 1) rest
    else c :: collapse 0 rest

def tidy (text : List Char) : List Char := trimChars (collapse 0 text)

def toMarkdown (raw : List Char) : Option (List Char) :=
  (scanFrom raw.length raw ⟨[], [], []⟩).map fun s => tidy s.flush.out

/-- What is read at a place of a description: a character, or a tag without its `<` and `>`. -/
inductive Piece where
  | char (c : Char)
  | tag (tag : List Char)

/-- The pieces of a text, once so many characters of the tag before it are passed over. -/
def piecesFrom : Nat → List Char → List Piece
  | _, [] => []
  | skip + 1, _ :: rest => piecesFrom skip rest
  | 0, c :: rest =>
    if c = '<' ∧ opensATag rest ∧ '>' ∈ rest then
      .tag (rest.takeWhile (· ≠ '>')) :: piecesFrom ((rest.takeWhile (· ≠ '>')).length + 1) rest
    else .char c :: piecesFrom 0 rest

def pieces (raw : List Char) : List Piece := piecesFrom 0 raw

namespace Piece

/-- What is outside the tags. -/
def text : Piece → List Char
  | .char c => [c]
  | .tag _ => []

/-- An anchor opens with the address it has, if any. -/
def anchor : Piece → Brace (Option Href)
  | .char _ => .neither
  | .tag inner =>
    if (trimChars inner).head? = some '!' ∨ tagName inner ≠ "a".toList then .neither
    else if (trimChars inner).head? = some '/' then .closing
    else .opening (attributeOf (tagBody inner) "href".toList).join

/-- What a piece becomes where these links are open. -/
def markdown (linkHrefs : List (Option Href)) (piece : Piece) : List Char :=
  match piece.anchor, piece with
  | .opening href, _ => if href.isSome then "[".toList else []
  | .closing, _ => (linkHrefs.head?.join.map fun href => "](<".toList ++ destination href ++ ">)".toList).getD []
  | .neither, .char c => escapeChar c
  | .neither, .tag inner =>
    if (trimChars inner).head? = some '!' then []
    else (plainMarkdown (tagName inner) (decide ((trimChars inner).head? = some '/'))).getD []

end Piece

def rendering (linkHrefs : List (Option Href)) : List Piece → List Char
  | [] => []
  | piece :: rest => piece.markdown linkHrefs ++ rendering (Brace.step linkHrefs piece.anchor) rest

/-- An anchor with an address, and the anchor that closes it. -/
structure ClosedLink (raw : List Char) (href : Href) (opening closing : Piece) (front inside later : List Piece) :
    Prop where
  reads : pieces raw = front ++ opening :: (inside ++ closing :: later)
  opens : opening.anchor = .opening (some href)
  nested : Brace.Nested Piece.anchor inside
  closes : closing.anchor = .closing

/-- The `<` between these is what the closing anchor of a link became: the opening one became a `[`,
and after the `<` comes the address of the link, which ends at its `>`. -/
def OpensDestination (raw before after : List Char) : Prop :=
  ∃ href opening closing front inside later rest, ClosedLink raw href opening closing front inside later ∧
    opening.markdown (Brace.openAfter Piece.anchor [] front) = "[".toList ∧
    before = (collapse 0 (rendering [] (front ++ opening :: inside))).dropWhile isWhiteSpace ++ "](".toList ∧
    after = destination href ++ ">)".toList ++ rest ∧ ∀ c ∈ destination href, c ∉ ['<', '>', '\n', '\r']

/-- A description comes out, every `<` in it opens the one-line address of a link that it closes, and all the
text outside its tags is there. -/
def CarriesNoMarkup (raw : List Char) : Prop :=
  ∃ out, toMarkdown raw = some out ∧
    (∀ before after, out = before ++ '<' :: after → OpensDestination raw before after) ∧
    (tidy (escape ((pieces raw).flatMap Piece.text))).Sublist out

/-- No link that is closed has an address with a line break in it. -/
def AddressesOnOneLine (raw : List Char) : Prop :=
  ∀ href opening closing front inside later, ClosedLink raw href opening closing front inside later →
    ∀ c ∈ href, c ∉ ['\n', '\r']

/-- Reading an attribute neither panics nor goes on for ever. -/
theorem attributeFrom_isSome {body name : List Char} (some_ : name ≠ []) (fuel : Nat) {front back : List Char}
    (cut : body = front ++ back) (enough : byteLen back < fuel) :
    (attributeFrom body name fuel (byteLen front)).isSome := by
  induction fuel generalizing front back with
  | zero => exact absurd enough (Nat.not_lt_zero _)
  | succ fuel ih =>
    have lowered : dropBytes (byteLen front) (body.map Char.toLower) = some (back.map Char.toLower) := by
      rw [cut, List.map_append, ← byteLen_map_toLower front]
      exact dropBytes_append _ _
    rw [attributeFrom]
    simp only [lowered, Option.bind_eq_bind, Option.bind_some]
    cases found : findBytes name (back.map Char.toLower) with
    | none => rfl
    | some offset =>
      obtain ⟨pre, post, there, rfl⟩ := findBytes_eq_some found
      obtain ⟨head, after, rfl, leading, rfl⟩ := List.map_eq_append_iff.mp there
      obtain ⟨before, word, rfl, rfl, rfl⟩ := List.map_eq_append_iff.mp leading
      rw [byteLen_map_toLower]
      have taken : takeBytes (byteLen front + byteLen before) (body.map Char.toLower) =
          some ((front ++ before).map Char.toLower) := by
        rw [cut, ← byteLen_append, ← byteLen_map_toLower (front ++ before),
          show front ++ (before ++ word ++ after) = (front ++ before) ++ (word ++ after) by
            simp only [List.append_assoc], @List.map_append _ _ Char.toLower (front ++ before)]
        exact takeBytes_append _ _
      have dropped : dropBytes (byteLen front + byteLen before + byteLen word) body = some after := by
        rw [cut, ← byteLen_append, ← byteLen_append,
          show front ++ (before ++ word ++ after) = (front ++ before ++ word) ++ after by
            simp only [List.append_assoc]]
        exact dropBytes_append _ _
      simp only [taken, byteLen_map_toLower, dropped, Option.bind_some]
      split
      next assigned =>
        obtain ⟨more, equals⟩ := List.head?_eq_some_iff.mp assigned.2
        have unsigned : dropBytes 1 ('=' :: more) = some more := dropBytes_append ['='] more
        simp only [equals, unsigned, Option.bind_some]
        cases quoted : (more.dropWhile isWhiteSpace).head?.filter fun c => c = '"' ∨ c = '\'' with
        | none => rfl
        | some quote =>
          obtain ⟨first, one⟩ := Option.filter_eq_some_iff.mp quoted
          obtain ⟨rest, value⟩ := List.head?_eq_some_iff.mp first
          have unquoted : dropBytes 1 (quote :: rest) = some rest := by
            rcases of_decide_eq_true one with rfl | rfl
            · exact dropBytes_append ['"'] rest
            · exact dropBytes_append ['\''] rest
          simp only [value, unquoted, Option.map_some, Option.bind_some]
          rfl
      · have positive := List.length_pos_of_ne_nil some_
        have bytes := length_le_byteLen (word.map Char.toLower)
        rw [byteLen_map_toLower] at bytes
        rw [byteLen_append, byteLen_append] at enough
        have whole : body = (front ++ before ++ word) ++ after := by
          rw [cut]
          simp only [List.append_assoc]
        have again := ih whole (by omega)
        rwa [byteLen_append, byteLen_append] at again

theorem attributeOf_isSome (body : List Char) {name : List Char} (some_ : name ≠ []) :
    (attributeOf body name).isSome :=
  attributeFrom_isSome some_ _ (List.nil_append body).symm (Nat.lt_succ_self _)

theorem replacement_eq (tag : List Char) (linkHrefs : List (Option Href)) :
    ∃ markdown, replacement tag linkHrefs = some (markdown, Brace.step linkHrefs (Piece.tag tag).anchor) ∧
      markdown.getD [] = (Piece.tag tag).markdown linkHrefs := by
  unfold replacement Piece.markdown Piece.anchor
  by_cases comment : (trimChars tag).head? = some '!'
  · have other : (trimChars tag).head? = some '!' ∨ tagName tag ≠ "a".toList := .inl comment
    simp only [if_pos comment, if_pos other]
    exact ⟨none, rfl, rfl⟩
  by_cases named : tagName tag = "a".toList
  · have anchor : ¬ ((trimChars tag).head? = some '!' ∨ tagName tag ≠ "a".toList) := by
      rintro (marked | other)
      · exact comment marked
      · exact other named
    simp only [if_neg comment, if_pos named, if_neg anchor, decide_eq_true_eq]
    by_cases closing : (trimChars tag).head? = some '/'
    · simp only [if_pos closing]
      rcases linkHrefs with _ | ⟨_ | href, rest⟩
      · exact ⟨some [], rfl, rfl⟩
      · exact ⟨some [], rfl, rfl⟩
      · exact ⟨some _, rfl, rfl⟩
    · have name : "href".toList ≠ [] := by decide
      obtain ⟨href, read⟩ := Option.isSome_iff_exists.mp (attributeOf_isSome (tagBody tag) name)
      simp only [if_neg closing, read]
      exact ⟨_, rfl, rfl⟩
  · have other : (trimChars tag).head? = some '!' ∨ tagName tag ≠ "a".toList := .inr named
    simp only [if_neg comment, if_neg named, if_pos other]
    exact ⟨_, rfl, rfl⟩

theorem piecesFrom_eq (skip : Nat) (text : List Char) : piecesFrom skip text = piecesFrom 0 (text.drop skip) := by
  induction text generalizing skip with
  | nil => cases skip <;> rfl
  | cons c rest ih =>
    cases skip with
    | zero => rfl
    | succ skip => exact ih skip

theorem piecesFrom_tag {tag later : List Char} (free : '>' ∉ tag) (opens : opensATag (tag ++ '>' :: later)) :
    piecesFrom 0 ('<' :: (tag ++ '>' :: later)) = .tag tag :: piecesFrom 0 later := by
  have there : '>' ∈ tag ++ '>' :: later := List.mem_append_right _ (List.mem_cons_self ..)
  rw [piecesFrom, if_pos ⟨rfl, opens, there⟩, takeWhile_ne_append_cons free, piecesFrom_eq, List.drop_append,
    List.drop_eq_nil_of_le (Nat.le_succ _), Nat.add_sub_cancel_left]
  rfl

theorem findIdx?_close {tag later : List Char} (free : '>' ∉ tag) :
    ('<' :: (tag ++ '>' :: later)).findIdx? (· = '>') = some (tag.length + 1) := by
  have none_ : tag.findIdx? (· = '>') = none :=
    List.findIdx?_eq_none_iff.mpr fun c there => decide_eq_false fun same => free (same ▸ there)
  rw [List.findIdx?_cons, List.findIdx?_append, none_]
  simp [List.findIdx?_cons]

theorem rendering_append (linkHrefs : List (Option Href)) (front back : List Piece) :
    rendering linkHrefs (front ++ back) =
      rendering linkHrefs front ++ rendering (Brace.openAfter Piece.anchor linkHrefs front) back := by
  induction front generalizing linkHrefs with
  | nil => rfl
  | cons piece front ih => rw [List.cons_append, rendering, rendering, ih, List.append_assoc, Brace.openAfter_cons]

/-- The scanner ends, and what it has put out is what the pieces become. -/
theorem scanFrom_eq (fuel : Nat) {rest : List Char} (enough : rest.length ≤ fuel) (s : Scanner) :
    ∃ s', scanFrom fuel rest s = some s' ∧
      s'.flush.out = s.flush.out ++ rendering s.linkHrefs (piecesFrom 0 rest) := by
  induction fuel generalizing rest s with
  | zero =>
    obtain rfl := List.eq_nil_of_length_eq_zero (Nat.le_zero.mp enough)
    exact ⟨s, rfl, (List.append_nil _).symm⟩
  | succ fuel ih =>
    rcases rest with _ | ⟨c, rest⟩
    · exact ⟨s, rfl, (List.append_nil _).symm⟩
    have shorter : rest.length ≤ fuel := Nat.le_of_succ_le_succ enough
    have passed : ∀ c, ∃ s', scanFrom fuel rest { s with text := s.text ++ [c] } = some s' ∧
        s'.flush.out = s.flush.out ++ (escapeChar c ++ rendering s.linkHrefs (piecesFrom 0 rest)) := by
      intro c
      obtain ⟨s', scanned, out⟩ := ih shorter { s with text := s.text ++ [c] }
      refine ⟨s', scanned, out.trans ?_⟩
      simp [Scanner.flush, escape, List.flatMap_append]
    by_cases less : c = '<'
    · obtain rfl := less
      by_cases opens : opensATag rest ∧ '>' ∈ rest
      · obtain ⟨tag, later, rfl, free⟩ := List.eq_append_cons_of_mem opens.2
        rw [piecesFrom_tag free opens.1, scanFrom, if_neg (not_not_intro rfl), if_pos opens.1, findIdx?_close free]
        have cut : between ('<' :: (tag ++ '>' :: later)) 1 (tag.length + 1) = some tag := by
          rw [between, if_pos ⟨Nat.le_add_left .., by simp⟩]
          simp
        have left : ('<' :: (tag ++ '>' :: later)).drop (tag.length + 1 + 1) = later := by simp
        obtain ⟨markdown, replaced, becomes⟩ := replacement_eq tag s.linkHrefs
        have even : later.length ≤ fuel := by
          rw [List.length_append, List.length_cons] at shorter
          omega
        obtain ⟨s', scanned, out⟩ := ih even
          { s.flush with
            out := s.flush.out ++ markdown.getD []
            linkHrefs := Brace.step s.linkHrefs (Piece.tag tag).anchor }
        refine ⟨s', ?_, out.trans ?_⟩
        · simp only [cut, left, Option.bind_eq_bind, Option.bind_some]
          show (replacement tag s.linkHrefs).bind _ = some s'
          rw [replaced]
          exact scanned
        · rw [rendering, becomes]
          simp [Scanner.flush, escape]
      · have single : piecesFrom 0 ('<' :: rest) = .char '<' :: piecesFrom 0 rest := by
          rw [piecesFrom, if_neg fun all => opens all.2]
        have unclosed : (if opensATag rest then ('<' :: rest).findIdx? (· = '>') else none) = none := by
          split
          next letter =>
            refine List.findIdx?_eq_none_iff.mpr fun c there => decide_eq_false fun same => opens ⟨letter, ?_⟩
            rcases List.mem_cons.mp there with rfl | there
            · cases same
            · exact same ▸ there
          · rfl
        rw [scanFrom, if_neg (not_not_intro rfl), unclosed, single]
        exact passed '<'
    · have single : piecesFrom 0 (c :: rest) = .char c :: piecesFrom 0 rest := by
        rw [piecesFrom, if_neg fun all => less all.1]
      rw [scanFrom, if_pos less, single]
      exact passed c

theorem toMarkdown_eq (raw : List Char) : toMarkdown raw = some (tidy (rendering [] (pieces raw))) := by
  obtain ⟨s', scanned, out⟩ := scanFrom_eq raw.length le_rfl ⟨[], [], []⟩
  rw [toMarkdown, scanned, Option.map_some, out]
  rfl

theorem not_mem_escapeChar (c : Char) : '<' ∉ escapeChar c := by
  unfold escapeChar
  split
  · decide
  split
  · decide
  next less _ => exact fun there => less (List.mem_singleton.mp there).symm

theorem not_mem_plainMarkdown (name : List Char) (closing : Bool) : '<' ∉ (plainMarkdown name closing).getD [] := by
  unfold plainMarkdown
  cases closing <;> repeat' split
  all_goals decide

theorem not_mem_destination (href : Href) : '<' ∉ destination href ∧ '>' ∉ destination href := by
  simp [destination]

theorem split_inj_of_once {bar : Char} {front back before after : List Char} (free : bar ∉ front) (free' : bar ∉ back)
    (same : front ++ bar :: back = before ++ bar :: after) : before = front ∧ after = back := by
  have left : bar ∉ before := by
    intro there
    rcases List.append_eq_append_iff.mp same with ⟨between, rfl, rest⟩ | ⟨between, rfl, -⟩
    · rcases between with _ | ⟨c, between⟩
      · exact free (List.append_nil front ▸ there)
      · obtain ⟨-, rfl⟩ := List.cons.inj rest
        exact free' (List.mem_append_right _ (List.mem_cons_self ..))
    · exact free (List.mem_append_left _ there)
  obtain ⟨before_, after_⟩ := join_inj_of_fronts free left same
  exact ⟨before_.symm, after_.symm⟩

/-- Of what a piece becomes, a `<` is in the mark of a closed link only, once. -/
theorem markdown_eq_append {linkHrefs : List (Option Href)} {piece : Piece} {before after : List Char}
    (there : piece.markdown linkHrefs = before ++ '<' :: after) :
    piece.anchor = .closing ∧ ∃ href rest, linkHrefs = some href :: rest ∧ before = "](".toList ∧
      after = destination href ++ ">)".toList := by
  have less : '<' ∈ piece.markdown linkHrefs := there ▸ List.mem_append_right _ (List.mem_cons_self ..)
  unfold Piece.markdown at there less
  split at less
  next _ href _ =>
    have bracket : '<' ∉ if href.isSome then "[".toList else [] := by split <;> decide
    exact absurd less bracket
  next closing =>
    rw [closing] at there
    rcases linkHrefs with _ | ⟨_ | href, rest⟩
    · cases less
    · cases less
    · refine ⟨closing, href, rest, rfl, ?_⟩
      have front : '<' ∉ "](".toList := by decide
      have back : '<' ∉ destination href ++ ">)".toList := by
        intro there
        rcases List.mem_append.mp there with inner | ends
        · exact (not_mem_destination href).1 inner
        · exact absurd ends (by decide)
      refine split_inj_of_once front back (Eq.trans ?_ there)
      exact (List.append_assoc "](<".toList (destination href) ">)".toList).symm
  next => exact absurd less (not_mem_escapeChar _)
  next inner _ =>
    split at less
    · cases less
    · exact absurd less (not_mem_plainMarkdown _ _)

/-- Every `<` of a rendering is in the mark of a link that is closed. -/
theorem rendering_eq_append {linkHrefs : List (Option Href)} {all : List Piece} {before after : List Char}
    (there : rendering linkHrefs all = before ++ '<' :: after) :
    ∃ front closing later href rest more, all = front ++ closing :: later ∧ closing.anchor = .closing ∧
      Brace.openAfter Piece.anchor linkHrefs front = some href :: rest ∧
      before = rendering linkHrefs front ++ "](".toList ∧ after = destination href ++ (">)".toList ++ more) := by
  induction all generalizing linkHrefs before with
  | nil => cases before <;> cases there
  | cons piece all ih =>
    have further : ∀ between, rendering (Brace.step linkHrefs piece.anchor) all = between ++ '<' :: after →
        ∃ front closing later href rest more, piece :: all = front ++ closing :: later ∧ closing.anchor = .closing ∧
          Brace.openAfter Piece.anchor linkHrefs front = some href :: rest ∧
          piece.markdown linkHrefs ++ between = rendering linkHrefs front ++ "](".toList ∧
          after = destination href ++ (">)".toList ++ more) := by
      intro between rest
      obtain ⟨front, closing, later, href, stack, more, rfl, closes, open_, rfl, rfl⟩ := ih rest
      refine ⟨piece :: front, closing, later, href, stack, more, rfl, closes, open_, ?_, rfl⟩
      rw [rendering, List.append_assoc]
    rw [rendering] at there
    rcases List.append_eq_append_iff.mp there with ⟨between, rfl, rest⟩ | ⟨between, own, rest⟩
    · exact further between rest
    · rcases between with _ | ⟨c, between⟩
      · rw [List.append_nil] at own
        obtain ⟨front, closing, later, href, stack, more, all_, closes, open_, same, after_⟩ := further [] rest.symm
        rw [List.append_nil, own] at same
        exact ⟨front, closing, later, href, stack, more, all_, closes, open_, same, after_⟩
      · obtain ⟨rfl, rfl⟩ := List.cons.inj rest
        obtain ⟨closes, href, stack, rfl, rfl, rfl⟩ := markdown_eq_append own
        exact ⟨[], piece, all, href, stack, _, rfl, closes, rfl, rfl, List.append_assoc ..⟩

theorem collapse_break (newlines : Nat) (text : List Char) : collapse newlines ('\n' :: text) =
    (if newlines + 1 ≤ 2 then ['\n'] else []) ++ collapse (newlines + 1) text := by rw [collapse, if_pos rfl]

theorem collapse_of_ne {c : Char} (other : c ≠ '\n') (newlines : Nat) (text : List Char) :
    collapse newlines (c :: text) = c :: collapse 0 text := by rw [collapse, if_neg other]

theorem collapse_append_cons {c : Char} (other : c ≠ '\n') (newlines : Nat) (front back : List Char) :
    collapse newlines (front ++ c :: back) = collapse newlines front ++ c :: collapse 0 back := by
  induction front generalizing newlines with
  | nil => exact collapse_of_ne other newlines back
  | cons d front ih =>
    rw [List.cons_append, collapse, collapse]
    split
    · rw [ih, List.append_assoc]
    · rw [ih, List.cons_append]

theorem collapse_eq_append {c : Char} (other : c ≠ '\n') {newlines : Nat} {text before after : List Char}
    (there : collapse newlines text = before ++ c :: after) :
    ∃ front back, text = front ++ c :: back ∧ collapse newlines front = before ∧ collapse 0 back = after := by
  induction text generalizing newlines before with
  | nil => cases before <;> cases there
  | cons d text ih =>
    rw [collapse] at there
    split at there
    next breaks =>
      have more : ∃ between, before = (if newlines + 1 ≤ 2 then ['\n'] else []) ++ between ∧
          collapse (newlines + 1) text = between ++ c :: after := by
        split at there
        · rcases before with _ | ⟨e, before⟩
          · exact absurd (List.cons.inj there).1.symm other
          · obtain ⟨rfl, rest⟩ := List.cons.inj there
            exact ⟨before, by rw [if_pos ‹_›]; rfl, rest⟩
        · exact ⟨before, by rw [if_neg ‹_›]; rfl, there⟩
      obtain ⟨between, rfl, rest⟩ := more
      obtain ⟨front, back, rfl, rfl, rfl⟩ := ih rest
      exact ⟨d :: front, back, rfl, by rw [collapse, if_pos breaks], rfl⟩
    next plain =>
      rcases before with _ | ⟨e, before⟩
      · obtain ⟨rfl, rfl⟩ := List.cons.inj there
        exact ⟨[], text, rfl, rfl, rfl⟩
      · obtain ⟨rfl, rest⟩ := List.cons.inj there
        obtain ⟨front, back, rfl, rfl, rfl⟩ := ih rest
        exact ⟨d :: front, back, rfl, by rw [collapse, if_neg plain], rfl⟩

/-- After fewer line breaks more is kept, and so it is after one break more that is in the text. -/
theorem collapse_sublists (newlines : Nat) (text : List Char) :
    (collapse (newlines + 1) text).Sublist (collapse newlines text) ∧
      (collapse newlines text).Sublist (collapse newlines ('\n' :: text)) := by
  induction text generalizing newlines with
  | nil => exact ⟨List.Sublist.refl _, List.nil_sublist _⟩
  | cons c text ih =>
    obtain ⟨fewer, more⟩ := ih (newlines + 1)
    by_cases breaks : c = '\n'
    · subst breaks
      constructor
      · rw [collapse_break, collapse_break]
        refine List.Sublist.append ?_ fewer
        split
        · rw [if_pos (by omega)]
        · exact List.nil_sublist _
      · rw [collapse_break, collapse_break newlines ('\n' :: text)]
        exact more.append_left _
    · constructor
      · rw [collapse_of_ne breaks, collapse_of_ne breaks]
      · rw [collapse_break, collapse_of_ne breaks, collapse_of_ne breaks]
        exact List.sublist_append_right _ _

theorem collapse_sublist_zero (newlines : Nat) (text : List Char) :
    (collapse newlines text).Sublist (collapse 0 text) := by
  induction newlines with
  | zero => exact List.Sublist.refl _
  | succ newlines ih => exact (collapse_sublists newlines text).1.trans ih

theorem collapse_sublist {some_ all : List Char} (part : some_.Sublist all) (newlines : Nat) :
    (collapse newlines some_).Sublist (collapse newlines all) := by
  induction part generalizing newlines with
  | slnil => exact List.Sublist.refl _
  | @cons some_ all c _ ih =>
    by_cases breaks : c = '\n'
    · subst breaks
      exact (ih newlines).trans (collapse_sublists newlines all).2
    · rw [collapse_of_ne breaks]
      exact ((collapse_sublist_zero newlines some_).trans (ih 0)).cons _
  | @cons_cons some_ all c _ ih =>
    by_cases breaks : c = '\n'
    · subst breaks
      rw [collapse_break, collapse_break]
      exact (ih _).append_left _
    · rw [collapse_of_ne breaks, collapse_of_ne breaks]
      exact (ih 0).cons_cons _

theorem dropWhile_sublist_dropWhile {some_ all : List Char} (p : Char → Bool) (part : some_.Sublist all) :
    (some_.dropWhile p).Sublist (all.dropWhile p) := by
  induction part with
  | slnil => exact List.Sublist.refl _
  | @cons some_ all c part ih =>
    rw [List.dropWhile_cons]
    split
    · exact ih
    · exact ((List.dropWhile_sublist p).trans part).cons _
  | @cons_cons some_ all c part ih =>
    rw [List.dropWhile_cons, List.dropWhile_cons]
    split
    · exact ih
    · exact part.cons_cons _

theorem tidy_sublist {some_ all : List Char} (part : some_.Sublist all) : (tidy some_).Sublist (tidy all) := by
  have front := dropWhile_sublist_dropWhile isWhiteSpace (collapse_sublist part 0)
  exact (dropWhile_sublist_dropWhile isWhiteSpace front.reverse).reverse

theorem escape_sublist_rendering (linkHrefs : List (Option Href)) (all : List Piece) :
    (escape (all.flatMap Piece.text)).Sublist (rendering linkHrefs all) := by
  induction all generalizing linkHrefs with
  | nil => exact List.Sublist.refl _
  | cons piece all ih =>
    rw [List.flatMap_cons, escape, List.flatMap_append, rendering]
    refine List.Sublist.append ?_ (ih _)
    cases piece with
    | char c =>
      show ([c].flatMap escapeChar).Sublist (escapeChar c)
      rw [List.flatMap_singleton]
    | tag inner => exact List.nil_sublist _

theorem collapse_of_free {text : List Char} (free : '\n' ∉ text) : collapse 0 text = text := by
  induction text with
  | nil => rfl
  | cons c text ih =>
    rw [collapse_of_ne (fun same => free (same ▸ List.mem_cons_self ..)),
      ih fun there => free (List.mem_cons_of_mem _ there)]

theorem collapse_sublist_self (newlines : Nat) (text : List Char) : (collapse newlines text).Sublist text := by
  induction text generalizing newlines with
  | nil => exact List.Sublist.refl _
  | cons c text ih =>
    by_cases breaks : c = '\n'
    · subst breaks
      rw [collapse_break]
      split
      · exact (ih _).cons_cons _
      · exact (ih _).cons _
    · rw [collapse_of_ne breaks]
      exact (ih 0).cons_cons _

theorem mem_collapse {c : Char} {text : List Char} (there : c ∈ text) : c ∈ collapse 0 text := by
  have alone : collapse 0 [c] = [c] := by
    rw [collapse]
    split
    next breaks => rw [breaks]; rfl
    · rfl
  have part := collapse_sublist (List.singleton_sublist.mpr there) 0
  rw [alone] at part
  exact List.singleton_sublist.mp part

section Trimming
variable {c d : Char} {front back : List Char}

theorem takeWhile_append_cons (solid : isWhiteSpace c = false) (front back : List Char) :
    (front ++ c :: back).takeWhile isWhiteSpace = front.takeWhile isWhiteSpace := by
  induction front with
  | nil => simp [solid]
  | cons d front ih => simp only [List.cons_append, List.takeWhile_cons, ih]

theorem dropWhile_append_cons (solid : isWhiteSpace c = false) (front back : List Char) :
    (front ++ c :: back).dropWhile isWhiteSpace = front.dropWhile isWhiteSpace ++ c :: back := by
  induction front with
  | nil => simp [solid]
  | cons d front ih =>
    simp only [List.cons_append, List.dropWhile_cons, ih]
    split <;> rfl

theorem rdropWhile_append_cons (solid : isWhiteSpace c = false) (front back : List Char) :
    (front ++ c :: back).rdropWhile isWhiteSpace = front ++ c :: back.rdropWhile isWhiteSpace := by
  rw [List.rdropWhile, List.reverse_append, List.reverse_cons, List.append_assoc, List.singleton_append,
    dropWhile_append_cons solid, List.rdropWhile]
  simp

theorem trimChars_around (solid : isWhiteSpace c = false) (solid' : isWhiteSpace d = false)
    (front part back : List Char) : trimChars (front ++ c :: (part ++ d :: back)) =
      front.dropWhile isWhiteSpace ++ c :: (part ++ d :: back.rdropWhile isWhiteSpace) := by
  have regroup : ∀ head tail : List Char, head ++ c :: (part ++ d :: tail) = (head ++ c :: part) ++ d :: tail := by
    intro head tail
    rw [List.append_assoc, List.cons_append]
  rw [trimChars, dropWhile_append_cons solid, regroup, rdropWhile_append_cons solid', regroup]

theorem trimChars_eq_append {text before after : List Char} (left : trimChars text = before ++ c :: after) :
    ∃ trail, text = (text.takeWhile isWhiteSpace ++ before) ++ c :: (after ++ trail) ∧
      ∀ x ∈ trail, isWhiteSpace x = true := by
  have split_ := List.rdropWhile_append_rtakeWhile (p := isWhiteSpace) (l := text.dropWhile isWhiteSpace)
  refine ⟨(text.dropWhile isWhiteSpace).rtakeWhile isWhiteSpace, ?_, fun x => List.mem_rtakeWhile_imp⟩
  have whole := List.takeWhile_append_dropWhile (p := isWhiteSpace) (l := text)
  unfold trimChars at left
  rw [left] at split_
  rw [← split_] at whole
  simpa only [List.append_assoc, List.cons_append] using whole.symm

theorem append_of_solid (front : List Char) {after trail : List Char} (solid : isWhiteSpace c = false)
    (same : front ++ c :: back = after ++ trail) (blank : ∀ x ∈ trail, isWhiteSpace x = true) :
    ∃ rest, after = front ++ c :: rest := by
  have absent : c ∉ trail := fun there => Bool.false_ne_true (solid.symm.trans (blank c there))
  rcases List.append_eq_append_iff.mp same with ⟨between, rfl, rest⟩ | ⟨between, rfl, rfl⟩
  · rcases between with _ | ⟨d, between⟩
    · rw [List.nil_append] at rest
      exact absurd (rest ▸ List.mem_cons_self ..) absent
    · obtain ⟨rfl, -⟩ := List.cons.inj rest
      exact ⟨between, rfl⟩
  · exact absurd (List.mem_append_right between (List.mem_cons_self ..)) absent

end Trimming

/-- Every `<` of the output is the mark of a link that is closed. -/
theorem destination_of_less {raw before after : List Char}
    (there : tidy (rendering [] (pieces raw)) = before ++ '<' :: after) :
    ∃ href opening closing front inside later rest, ClosedLink raw href opening closing front inside later ∧
      opening.markdown (Brace.openAfter Piece.anchor [] front) = "[".toList ∧
      before = (collapse 0 (rendering [] (front ++ opening :: inside))).dropWhile isWhiteSpace ++ "](".toList ∧
      after = collapse 0 (destination href) ++ ">)".toList ++ rest := by
  obtain ⟨trail, whole, blank⟩ := trimChars_eq_append there
  obtain ⟨shown, shown', rendered, shown_, shown'_⟩ := collapse_eq_append (by decide) whole
  obtain ⟨word, closing, later, href, stack, more, read, closes, open_, rfl, rfl⟩ := rendering_eq_append rendered
  obtain ⟨front, opening, inside, rfl, opens, nested, -⟩ := Brace.openAfter_eq_cons open_
  have bracket : collapse 0 (rendering [] (front ++ opening :: inside) ++ "](".toList) =
      collapse 0 (rendering [] (front ++ opening :: inside)) ++ "](".toList :=
    (collapse_append_cons (by decide) 0 _ _).trans rfl
  have address : collapse 0 (destination href ++ (">)".toList ++ more)) =
      collapse 0 (destination href) ++ '>' :: ')' :: collapse 0 more :=
    (collapse_append_cons (by decide) 0 _ _).trans rfl
  rw [bracket] at shown_
  rw [address] at shown'_
  -- the white space trimmed away is what the text before the mark begins with
  have lead : (collapse 0 (rendering [] (pieces raw))).takeWhile isWhiteSpace =
      (collapse 0 (rendering [] (front ++ opening :: inside))).takeWhile isWhiteSpace := by
    rw [whole, ← shown_, List.append_assoc]
    exact takeWhile_append_cons (by decide) _ _
  have before_ : before =
      (collapse 0 (rendering [] (front ++ opening :: inside))).dropWhile isWhiteSpace ++ "](".toList := by
    rw [lead] at shown_
    refine @List.append_cancel_left _ ((collapse 0 (rendering [] (front ++ opening :: inside))).takeWhile
      isWhiteSpace) _ _ ?_
    rw [← shown_, ← List.append_assoc, List.takeWhile_append_dropWhile]
  obtain ⟨rest, after_⟩ := append_of_solid (c := ')') (collapse 0 (destination href) ++ ['>']) (by decide)
    (by rw [← shown'_, List.append_assoc]; rfl) blank
  have mark : opening.markdown (Brace.openAfter Piece.anchor [] front) = "[".toList := by
    unfold Piece.markdown
    rw [opens]
    rfl
  refine ⟨href, opening, closing, front, inside, later, rest, ⟨?_, opens, nested, closes⟩, mark, before_, ?_⟩
  · rw [read, List.append_assoc, List.cons_append]
  · rw [after_, List.append_assoc, List.append_assoc]
    rfl

/-- What the closing anchor of a link becomes is in the output, but for line breaks. -/
theorem less_of_closedLink {raw : List Char} {href : Href} {opening closing : Piece} {front inside later : List Piece}
    (link : ClosedLink raw href opening closing front inside later) :
    ∃ before rest, tidy (rendering [] (pieces raw)) =
      before ++ '<' :: (collapse 0 (destination href) ++ '>' :: ')' :: rest) := by
  have stack : Brace.openAfter Piece.anchor [] (front ++ opening :: inside) =
      some href :: Brace.openAfter Piece.anchor [] front := by
    rw [Brace.openAfter_append, Brace.openAfter_cons, link.opens, link.nested.openAfter_eq]
    rfl
  have mark : closing.markdown (some href :: Brace.openAfter Piece.anchor [] front) =
      "](<".toList ++ destination href ++ ">)".toList := by
    unfold Piece.markdown
    rw [link.closes]
    rfl
  have split_ : pieces raw = (front ++ opening :: inside) ++ closing :: later := by
    rw [link.reads, List.append_assoc, List.cons_append]
  rw [split_, rendering_append, stack, rendering, mark]
  generalize rendering _ later = more
  generalize rendering [] (front ++ opening :: inside) = shown
  have collapsed : collapse 0 (shown ++ ("](<".toList ++ destination href ++ ">)".toList ++ more)) =
      collapse 0 shown ++ ']' ::
        ('(' :: '<' :: (collapse 0 (destination href) ++ ['>']) ++ ')' :: collapse 0 more) := by
    have address := collapse_append_cons (c := '>') (by decide) 0 (destination href) (')' :: more)
    rw [collapse_of_ne (by decide)] at address
    have opened := collapse_append_cons (c := ']') (by decide) 0 shown
      ('(' :: '<' :: (destination href ++ '>' :: ')' :: more))
    rw [collapse_of_ne (by decide), collapse_of_ne (by decide), address] at opened
    simpa using opened
  refine ⟨(collapse 0 shown).dropWhile isWhiteSpace ++ "](".toList, (collapse 0 more).rdropWhile isWhiteSpace, ?_⟩
  rw [tidy, collapsed, trimChars_around (by decide) (by decide)]
  simp

theorem destination_of_line {raw : List Char} (lines : AddressesOnOneLine raw) : CarriesNoMarkup raw := by
  refine ⟨_, toMarkdown_eq raw, ?_, tidy_sublist (escape_sublist_rendering [] (pieces raw))⟩
  intro before after there
  obtain ⟨href, opening, closing, front, inside, later, rest, link, mark, before_, rfl⟩ := destination_of_less there
  have line : ∀ c ∈ destination href, c ∉ ['\n', '\r'] :=
    fun c within => lines href opening closing front inside later link c (List.mem_filter.mp within).1
  have free : '\n' ∉ destination href := fun within => line _ within (by decide)
  refine ⟨href, opening, closing, front, inside, later, rest, link, mark, before_, by rw [collapse_of_free free], ?_⟩
  intro c within marked
  obtain rfl | marked := List.mem_cons.mp marked
  · exact (not_mem_destination href).1 within
  obtain rfl | marked := List.mem_cons.mp marked
  · exact (not_mem_destination href).2 within
  · exact line c within marked

theorem line_of_destination {raw : List Char} (safe : CarriesNoMarkup raw) : AddressesOnOneLine raw := by
  obtain ⟨out, output, marks, -⟩ := safe
  obtain rfl := Option.some.inj ((toMarkdown_eq raw).symm.trans output)
  intro href opening closing front inside later link c within breaks
  obtain ⟨before, rest, there⟩ := less_of_closedLink link
  obtain ⟨href', _, _, _, _, _, rest', -, -, -, after, free⟩ := marks _ _ there
  have inner : c ∈ destination href := by
    refine List.mem_filter.mpr ⟨within, decide_eq_true ⟨?_, ?_⟩⟩
    · rintro rfl
      exact absurd breaks (by decide)
    · rintro rfl
      exact absurd breaks (by decide)
  have unmarked : '>' ∉ collapse 0 (destination href) :=
    fun marked => (not_mem_destination href).2 ((collapse_sublist_self 0 _).subset marked)
  -- both addresses end at the first `>`
  have same : collapse 0 (destination href) = destination href' := by
    rw [List.append_assoc] at after
    exact (join_inj_of_fronts unmarked (not_mem_destination href').2 after).1
  exact free c (same ▸ mem_collapse inner) (List.mem_cons_of_mem _ (List.mem_cons_of_mem _ breaks))

/-- Every `<` that comes out opens a one-line address, and no text is lost, exactly if no link that the
description closes has an address with a line break in it. -/
theorem carriesNoMarkup_iff (raw : List Char) : CarriesNoMarkup raw ↔ AddressesOnOneLine raw :=
  ⟨line_of_destination, destination_of_line⟩

/-- An address of two lines comes out as it is, and what is left between `<` and `>` is no address. -/
theorem tag_carried : ¬ CarriesNoMarkup "<a href=\"img\nsrc=x onerror=alert(1)//\">t</a>".toList := by
  intro safe
  have link :
    ClosedLink "<a href=\"img\nsrc=x onerror=alert(1)//\">t</a>".toList "img\nsrc=x onerror=alert(1)//".toList
      (.tag "a href=\"img\nsrc=x onerror=alert(1)//\"".toList) (.tag "/a".toList) [] [.char 't'] [] :=
    ⟨rfl, rfl, .other rfl .nil, rfl⟩
  exact line_of_destination safe _ _ _ _ _ _ link '\n' (by decide) (by decide)

end CoopSpaces.Description
