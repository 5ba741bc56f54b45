import CoopSpaces.Pages.WikiPages
import Mathlib.Algebra.GroupWithZero.Nat

namespace CoopSpaces

inductive LinkStep where
  | here
  | up
  deriving DecidableEq

def LinkStep.text : LinkStep → Chars
  | .here => "./".toList
  | .up => "../".toList

/-- A relative link: leading `./` and `../` segments, and the names after them. -/
structure RelativeLink where
  steps : List LinkStep
  names : FilePath
  deriving DecidableEq

namespace RelativeLink

def text (link : RelativeLink) : Chars := link.steps.flatMap LinkStep.text ++ relativePath link.names

/-- Resolved against the folder of the page it stands on, the link leads to a file. -/
def LeadsTo (link : RelativeLink) (folder target : FilePath) : Prop :=
  link.names ≠ [] ∧ link.steps.count .up ≤ folder.length ∧
    target = folder.take (folder.length - link.steps.count .up) ++ link.names

/-- The link goes up to the root of the checkout, and its `./` segments come first. -/
def FromRoot (link : RelativeLink) (folder : FilePath) : Prop :=
  link.steps.count .up = folder.length ∧ (link.steps.dropWhile (· = .here)).dropWhile (· = .up) = []

end RelativeLink

/-- Each link to another page names the slug that page is published under, and each page is
published under its slug. -/
structure PagesAgree (checkout : Checkout) (build : PagesBuild) : Prop where
  links : ∀ file ∈ checkout.files build, ∀ link : RelativeLink,
    link.text ∈ markdownLinks (build.markdownToHtml file.2) →
    ∀ target ∈ checkout.files build, target.1 ≠ file.1 → link.LeadsTo file.1.dropLast target.1 →
      replaceLink build.lower build.pageType link.text =
        routePrefix build.pageType ++ '/' :: slugFromPath build.lower (relativePath target.1)
  published : ∀ file ∈ checkout.files build,
    build.buildPages checkout.entries (slugFromPath build.lower (relativePath file.1)) =
      some (build.buildPage file.1 file.2)

section Lower
variable (lower : Lowercase)

def Lowercase.width (c : Char) : Nat := if c = 'Σ' then 1 else (lower.char c).length

theorem Lowercase.width_pos (c : Char) : 0 < lower.width c := by
  unfold Lowercase.width
  split
  · exact Nat.one_pos
  · exact List.length_pos_of_ne_nil (lower.some_ c)

theorem Lowercase.length_textAfter (before chars : Chars) :
    (lower.textAfter before chars).length = (chars.map lower.width).sum := by
  induction chars generalizing before with
  | nil => rfl
  | cons c rest ih =>
    rw [textAfter, List.length_append, ih, List.map_cons, List.sum_cons]
    congr 1
    unfold width
    split
    · split
      · rfl
      · rfl
    · rfl

theorem Lowercase.length_text_lt {chars more : Chars} (some_ : more ≠ []) :
    (lower.text chars).length < (lower.text (more ++ chars)).length := by
  rw [text, text, length_textAfter, length_textAfter, List.map_append, List.sum_append]
  obtain ⟨c, rest, rfl⟩ := List.exists_cons_of_ne_nil some_
  have positive := lower.width_pos c
  rw [List.map_cons, List.sum_cons]
  omega

/-- A text in lower case begins with a dot exactly when the text does. -/
theorem Lowercase.head_text_dot {chars : Chars} : (lower.text chars).head? = some '.' ↔ chars.head? = some '.' := by
  cases chars with
  | nil => exact Iff.rfl
  | cons c rest =>
    simp only [text, textAfter, List.head?_cons, Option.some.injEq]
    split
    · rename_i sigma
      subst sigma
      split
      · simp
      · simp
    · obtain ⟨first, later, split⟩ := List.exists_cons_of_ne_nil (lower.some_ c)
      rw [split, List.cons_append, List.head?_cons, Option.some.injEq]
      constructor
      · rintro rfl
        exact lower.onlyDot c later split
      · rintro rfl
        rw [lower.dot] at split
        exact (List.cons.inj split).1.symm

end Lower

/-- A path without its extensions, and without backslashes. -/
def bareSlug (path : Chars) : Chars :=
  ((path.trimEndMatches ".md".toList).trimEndMatches ".markdown".toList).map fun c => if c = '\\' then '/' else c

theorem finishSlug_eq (lower : Lowercase) (path : Chars) : finishSlug lower path = lower.text (bareSlug path) := rfl

theorem bareSlug_append_cons (front body : Chars) :
    bareSlug (front ++ '/' :: body) = (front ++ ['/']).map (fun c => if c = '\\' then '/' else c) ++
      bareSlug body := by
  unfold bareSlug
  rw [List.trimEndMatches_append_cons
    (by decide) (by decide), List.trimEndMatches_append_cons (by decide) (by decide),
    List.append_cons, List.map_append]

theorem head_bareSlug_dot {path : Chars} (dotted : (bareSlug path).head? = some '.') : path.head? = some '.' := by
  have shorter : (path.trimEndMatches ".md".toList).trimEndMatches ".markdown".toList <+: path :=
    (List.trimEndMatches_prefix _ _).trans (List.trimEndMatches_prefix _ _)
  obtain ⟨cut, whole⟩ := shorter
  rw [← whole]
  rw [bareSlug, List.head?_map] at dotted
  obtain ⟨c, first, same⟩ := Option.map_eq_some_iff.mp dotted
  rw [List.head?_append, first]
  split at same
  · cases same
  · exact congrArg some same

section Paths
variable {path front names : FilePath}

theorem relativePath_cons (name : Chars) (some_ : names ≠ []) :
    relativePath (name :: names) = name ++ '/' :: relativePath names := by
  rw [relativePath, List.intercalate_cons_of_ne_nil some_]
  simp [relativePath]

theorem relativePath_append (some_ : front ≠ []) (more : names ≠ []) :
    relativePath (front ++ names) = relativePath front ++ '/' :: relativePath names := by
  induction front with
  | nil => exact absurd rfl some_
  | cons name rest ih =>
    cases rest with
    | nil =>
      rw [List.singleton_append, relativePath_cons name more]
      simp [relativePath]
    | cons second rest =>
      rw [List.cons_append, relativePath_cons name
        (by simp), ih (List.cons_ne_nil _ _), relativePath_cons name (List.cons_ne_nil _ _),
        List.append_assoc, List.cons_append]

theorem head_relativePath (some_ : path ≠ []) (names : ∀ part ∈ path, OpenName part) :
    ∃ c rest, relativePath path = c :: rest ∧ c ≠ '.' ∧ c ≠ '/' := by
  obtain ⟨name, rest, rfl⟩ := List.exists_cons_of_ne_nil some_
  obtain ⟨c, chars, rfl, dotless, free⟩ := names name List.mem_cons_self
  have slashless : c ≠ '/' := fun same => free (same ▸ List.mem_cons_self)
  cases rest with
  | nil => exact ⟨c, chars, by simp [relativePath], dotless, slashless⟩
  | cons second rest =>
    rw [relativePath_cons _ (List.cons_ne_nil _ _)]
    exact ⟨c, _, List.cons_append, dotless, slashless⟩

theorem relativePath_ne (some_ : path ≠ []) (names : ∀ part ∈ path, OpenName part) (scheme rest : Chars) :
    relativePath path ≠ scheme ++ '/' :: '/' :: rest := by
  intro same
  have free : ∀ part ∈ path, '/' ∉ part := by
    intro part there
    obtain ⟨c, chars, rfl, -, free⟩ := names part there
    exact free
  have pieces := congrArg (List.splitOn '/') same
  rw [relativePath, List.splitOn_intercalate _ free some_, List.splitOn_append_cons_self,
    ← List.nil_append ('/' :: rest), List.splitOn_append_cons_self, List.splitOn_nil] at pieces
  have empty : [] ∈ path := by
    rw [pieces]
    exact List.mem_append_right _ (List.mem_append_left _ (List.mem_singleton_self _))
  obtain ⟨c, chars, nothing, -⟩ := names [] empty
  cases nothing

end Paths

section Links
variable {link : RelativeLink} {steps : List LinkStep} {names folder target : FilePath} {rest : Chars}

theorem trimStart_here (other : ∀ c tail, rest = c :: tail → c ≠ '.') :
    (steps.flatMap LinkStep.text ++ rest).trimStartMatches "./".toList =
      (steps.dropWhile (· = .here)).flatMap LinkStep.text ++ rest := by
  induction steps with
  | nil =>
    refine List.trimStartMatches_of_absent fun dotted => ?_
    obtain ⟨tail, same⟩ := dotted
    exact other '.' _ same.symm rfl
  | cons step steps ih =>
    cases step with
    | here =>
      rw [List.flatMap_cons, List.append_assoc, LinkStep.text, List.trimStartMatches_append (by decide), ih]
      rfl
    | up =>
      refine List.trimStartMatches_of_absent fun dotted => ?_
      obtain ⟨tail, same⟩ := dotted
      cases same

theorem trimStart_up (other : ∀ c tail, rest = c :: tail → c ≠ '.') :
    (steps.flatMap LinkStep.text ++ rest).trimStartMatches "../".toList =
      (steps.dropWhile (· = .up)).flatMap LinkStep.text ++ rest := by
  induction steps with
  | nil =>
    refine List.trimStartMatches_of_absent fun dotted => ?_
    obtain ⟨tail, same⟩ := dotted
    exact other '.' _ same.symm rfl
  | cons step steps ih =>
    cases step with
    | up =>
      rw [List.flatMap_cons, List.append_assoc, LinkStep.text, List.trimStartMatches_append (by decide), ih]
      rfl
    | here =>
      refine List.trimStartMatches_of_absent fun dotted => ?_
      obtain ⟨tail, same⟩ := dotted
      cases same

theorem linkSlug_text (lower : Lowercase) (some_ : link.names ≠ []) (opens : ∀ part ∈ link.names, OpenName part) :
    linkSlug lower link.text = lower.text (bareSlug
      (((link.steps.dropWhile (· = .here)).dropWhile (· = .up)).flatMap LinkStep.text ++
        relativePath link.names)) := by
  obtain ⟨c, rest, begins, dotless, -⟩ := head_relativePath some_ opens
  have other : ∀ d tail, relativePath link.names = d :: tail → d ≠ '.' := by
    intro d tail same
    rw [begins] at same
    exact (List.cons.inj same).1 ▸ dotless
  rw [linkSlug, RelativeLink.text, trimStart_here other, trimStart_up other, finishSlug_eq]

theorem not_prefix_text (some_ : link.names ≠ []) (opens : ∀ part ∈ link.names, OpenName part) {scheme : Chars}
    (plain : scheme.head? ≠ some '.') : ¬ (scheme ++ ['/', '/']) <+: link.text := by
  rintro ⟨rest, same⟩
  cases steps : link.steps with
  | nil =>
    rw [RelativeLink.text, steps, List.flatMap_nil, List.nil_append, List.append_assoc] at same
    exact relativePath_ne some_ opens scheme rest same.symm
  | cons step later =>
    have dotted : link.text.head? = some '.' := by
      rw [RelativeLink.text, steps]
      cases step with
      | here => rfl
      | up => rfl
    rw [← same] at dotted
    cases scheme with
    | nil => cases dotted
    | cons c scheme => exact plain dotted

theorem isExternal_text (some_ : link.names ≠ []) (opens : ∀ part ∈ link.names, OpenName part) :
    isExternal link.text = false := by
  have never : ∀ scheme : Chars, scheme.head? ≠ some '.' → (scheme ++ ['/', '/']).isPrefixOf link.text = false := by
    intro scheme plain
    refine Bool.eq_false_iff.mpr fun front => not_prefix_text some_ opens plain ?_
    simpa using front
  have http := never "http:".toList (by decide)
  have https := never "https:".toList (by decide)
  have bare := never [] (by decide)
  rw [isExternal, Bool.or_eq_false_iff, Bool.or_eq_false_iff]
  exact ⟨⟨http, https⟩, bare⟩

theorem head_bareSlug_steps (some_ : steps ≠ []) :
    (bareSlug (steps.flatMap LinkStep.text ++ rest)).head? = some '.' := by
  obtain ⟨step, later, rfl⟩ := List.exists_cons_of_ne_nil some_
  cases step with
  | here =>
    have split : (LinkStep.here :: later).flatMap LinkStep.text ++ rest = ['.'] ++
      '/' :: (later.flatMap LinkStep.text ++ rest) := rfl
    rw [split, bareSlug_append_cons]
    rfl
  | up =>
    have split : (LinkStep.up :: later).flatMap LinkStep.text ++ rest = ['.', '.'] ++
      '/' :: (later.flatMap LinkStep.text ++ rest) := rfl
    rw [split, bareSlug_append_cons]
    rfl

theorem slugFromPath_eq (lower : Lowercase) {path : FilePath} (some_ : path ≠ [])
    (opens : ∀ part ∈ path, OpenName part) :
    slugFromPath lower (relativePath path) = lower.text (bareSlug (relativePath path)) := by
  obtain ⟨c, rest, begins, -, slashless⟩ := head_relativePath some_ opens
  have stays : (relativePath path).trimStartMatches ['/'] = relativePath path := by
    refine List.trimStartMatches_of_absent ?_
    rintro ⟨tail, same⟩
    rw [begins] at same
    exact slashless (List.cons.inj same).1.symm
  rw [slugFromPath, stays, finishSlug_eq]

/-- A link is given the slug of the file it leads to exactly when it goes by the root. -/
theorem replaceLink_eq_iff (lower : Lowercase) (pageType : PageType) (leads : link.LeadsTo folder target)
    (opens : ∀ part ∈ target, OpenName part) :
    replaceLink lower pageType link.text = routePrefix pageType ++ '/' :: slugFromPath lower (relativePath target) ↔
      link.FromRoot folder := by
  obtain ⟨some_, within, rfl⟩ := leads
  have names : ∀ part ∈ link.names, OpenName part := fun part there => opens part (List.mem_append_right _ there)
  have whole : folder.take (folder.length - link.steps.count .up) ++ link.names ≠ [] := by simp [some_]
  rw [replaceLink, isExternal_text some_ names, if_neg Bool.false_ne_true, List.append_cancel_left_eq,
    List.cons.injEq, and_iff_right rfl, linkSlug_text lower some_ names, slugFromPath_eq lower whole opens,
      RelativeLink.FromRoot]
  by_cases left : (link.steps.dropWhile (· = .here)).dropWhile (· = .up) = []
  · rw [left, List.flatMap_nil, List.nil_append, and_iff_left rfl]
    by_cases root : link.steps.count .up = folder.length
    · rw [root, Nat.sub_self, List.take_zero, List.nil_append]
      exact iff_of_true rfl rfl
    · refine iff_of_false (fun same => ?_) root
      have above : folder.take (folder.length - link.steps.count .up) ≠ [] := by
        rw [ne_eq, List.take_eq_nil_iff, not_or]
        refine ⟨by omega, ?_⟩
        rintro rfl
        exact root (Nat.le_zero.mp within)
      rw [relativePath_append above some_, bareSlug_append_cons] at same
      have some_ : (relativePath (folder.take (folder.length - link.steps.count .up)) ++ ['/']).map
          (fun c => if c = '\\' then '/' else c) ≠ [] := by simp
      have longer := @Lowercase.length_text_lt lower (bareSlug (relativePath link.names)) _ some_
      rw [← same] at longer
      exact lt_irrefl _ longer
  · refine iff_of_false (fun same => ?_) fun here => left here.2
    have dotted := lower.head_text_dot.mpr (@head_bareSlug_steps _ (relativePath link.names) left)
    rw [same, lower.head_text_dot] at dotted
    obtain ⟨c, rest, begins, dotless, -⟩ := head_relativePath whole opens
    have first := head_bareSlug_dot dotted
    rw [begins] at first
    exact dotless (Option.some.inj first)

end Links

variable (checkout : Checkout) (build : PagesBuild)

/-- Each page is published under its slug exactly when no two have the same one. -/
theorem published_iff :
    (∀ file ∈ checkout.files build,
        build.buildPages checkout.entries (slugFromPath build.lower (relativePath file.1)) =
          some (build.buildPage file.1 file.2)) ↔
      ∀ file ∈ checkout.files build, ∀ other ∈ checkout.files build,
        slugFromPath build.lower (relativePath file.1) = slugFromPath build.lower (relativePath other.1) →
          file = other := by
  constructor
  · intro published file there other alsoThere same
    have one := published file there
    rw [same, published other alsoThere] at one
    have paths := congrArg Page.relativePath (Option.some.inj one).symm
    obtain ⟨some_, opens⟩ := Checkout.openNames there
    obtain ⟨others, opens'⟩ := Checkout.openNames alsoThere
    refine Checkout.eq_of_path there alsoThere
      (relativePath_injective some_ others (fun part member => ?_) (fun part member => ?_) paths)
    · obtain ⟨c, rest, rfl, -, free⟩ := opens part member
      exact free
    · obtain ⟨c, rest, rfl, -, free⟩ := opens' part member
      exact free
  · intro apart file there
    rw [PagesBuild.buildPages_eq, Table.index, List.foldl_map]
    obtain ⟨last, listed, sameSlug, found⟩ := @Table.foldl_insert_mem Chars Page _ _
      (fun file : FilePath × Chars => (build.buildPage file.1 file.2).slug)
        (fun file => build.buildPage file.1 file.2) _ _ there
    obtain rfl := apart last listed file there sameSlug
    exact found _

section
def asciiLower : Lowercase where
  char c := [c.toLower]
  finalSigma _ _ := true
  some_ _ := List.cons_ne_nil _ _
  dot := rfl
  onlyDot c rest same := by
    have lowered : c.toLower = '.' := (List.cons.inj same).1
    have code := congrArg Char.toNat lowered
    rw [toNat_toLower] at code
    split at code
    · have low : '.'.toNat = 46 := rfl
      omega
    · exact Char.toNat_inj.mp code

def millLink : Chars := "<p><a ".toList ++ hrefOpen ++ "mill.md".toList ++ ['"'] ++ ">Mill</a></p>".toList

/-- A renderer that knows one link. -/
def wikiBuild : PagesBuild where
  markdownToHtml content := if content = "[Mill](mill.md)".toList then millLink else content
  lower := asciiLower
  pageType := .wiki
  includeReadme := true

/-- Two pages in a folder, the first with a link to the second. -/
def toolCheckout : Checkout where
  entries :=
    [("tools".toList, .dir
      [("lathe.md".toList, .file (some "[Mill](mill.md)".toList)), ("mill.md".toList, .file (some "Mill".toList))])]
  distinct := by decide
  valid := by simp [ValidEntries, FsNode.Valid]

/-- Two pages whose names differ in case. -/
def twinCheckout : Checkout where
  entries := [("A.md".toList, .file (some "big".toList)), ("a.md".toList, .file (some "small".toList))]
  distinct := by decide
  valid := by simp [ValidEntries, FsNode.Valid]

end

end CoopSpaces
