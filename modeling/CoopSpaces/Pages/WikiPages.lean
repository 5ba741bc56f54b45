import CoopSpaces.Lib.Table
import CoopSpaces.Lib.Text
import CoopSpaces.Lib.Trimming

namespace CoopSpaces

/-- Texts as their characters. -/
abbrev Chars := List Char

inductive PageType where
  | wiki
  | site
  deriving DecidableEq

/-- Lower case, character by character; only a capital sigma looks at what stands around it. -/
structure Lowercase where
  char : Char → Chars
  finalSigma : Chars → Chars → Bool
  some_ : ∀ c, char c ≠ []
  dot : char '.' = ['.']
  onlyDot : ∀ c rest, char c = '.' :: rest → c = '.'

namespace Lowercase
variable (lower : Lowercase)

def textAfter (before : Chars) : Chars → Chars
  | [] => []
  | c :: rest =>
    (if c = 'Σ' then (if lower.finalSigma before rest then ['ς'] else ['σ']) else lower.char c) ++
      textAfter (before ++ [c]) rest

def text (chars : Chars) : Chars := lower.textAfter [] chars

end Lowercase

structure Page where
  title : Chars
  htmlContent : Chars
  rawContent : Chars
  relativePath : Chars
  slug : Chars
  deriving DecidableEq

/-- What a slug keeps of a path: no extension, no backslashes, lower case. -/
def finishSlug (lower : Lowercase) (path : Chars) : Chars :=
  lower.text (((path.trimEndMatches ".md".toList).trimEndMatches ".markdown".toList).map fun c => if c = '\\'
    then '/' else c)

def slugFromPath (lower : Lowercase) (path : Chars) : Chars := finishSlug lower (path.trimStartMatches ['/'])

/-- The slug that a link is taken to name: what is left of it without leading `./`, then leading `../`. -/
def linkSlug (lower : Lowercase) (link : Chars) : Chars :=
  finishSlug lower ((link.trimStartMatches "./".toList).trimStartMatches "../".toList)

def routePrefix : PageType → Chars
  | .wiki => "/wiki".toList
  | .site => "/page".toList

def isExternal (link : Chars) : Bool :=
  "http://".toList.isPrefixOf link || "https://".toList.isPrefixOf link || "//".toList.isPrefixOf link

/-- The target a matched link is given. -/
def replaceLink (lower : Lowercase) (pageType : PageType) (link : Chars) : Chars :=
  if isExternal link then link else routePrefix pageType ++ '/' :: linkSlug lower link

def hrefOpen : Chars := "href=".toList ++ ['"']

/-- What `href="([^"]*\\.md(?:arkdown)?)"` matches at the front of a text: the link, and what comes after it. -/
def matchLink (html : Chars) : Option (Chars × Chars) :=
  if hrefOpen.isPrefixOf html then
    let value := html.drop hrefOpen.length
    let link := value.takeWhile (· ≠ '"')
    match value.dropWhile (· ≠ '"') with
    | [] => none
    | _ :: after =>
      if ".md".toList.isSuffixOf link || ".markdown".toList.isSuffixOf link then some (link, after) else none
  else none

/-- The matches in a text, from left to right, and the characters between them. -/
inductive HtmlPiece where
  | char (c : Char)
  | link (target : Chars)
  deriving DecidableEq

def htmlPiecesFor : Nat → Chars → List HtmlPiece
  | 0, _ => []
  | _ + 1, [] => []
  | fuel + 1, c :: rest =>
    match matchLink (c :: rest) with
    | some (link, after) => .link link :: htmlPiecesFor fuel after
    | none => .char c :: htmlPiecesFor fuel rest

def htmlPieces (html : Chars) : List HtmlPiece := htmlPiecesFor html.length html

def HtmlPiece.render (replace : Chars → Chars) : HtmlPiece → Chars
  | .char c => [c]
  | .link target => hrefOpen ++ replace target ++ ['"']

def fixMarkdownLinks (lower : Lowercase) (pageType : PageType) (html : Chars) : Chars :=
  (htmlPieces html).flatMap (HtmlPiece.render (replaceLink lower pageType))

/-- The links of a text to Markdown files. -/
def markdownLinks (html : Chars) : List Chars :=
  (htmlPieces html).filterMap fun piece =>
    match piece with
    | .char _ => none
    | .link target => some target

/-- What a directory holds; a file that cannot be read as text has no content. -/
inductive FsNode where
  | file (content : Option Chars)
  | dir (entries : List (Chars × FsNode))
  | symlink

def eqIgnoreAsciiCase (name other : Chars) : Bool := name.map Char.toLower = other.map Char.toLower

/-- What follows the last dot of a name, unless the name begins with it. -/
def pathExtension (name : Chars) : Option Chars :=
  if (name.reverse.dropWhile (· ≠ '.')).length ≤ 1 then none else some (name.reverse.takeWhile (· ≠ '.')).reverse

def fileStem (name : Chars) : Chars :=
  if (pathExtension name).isSome then (name.reverse.dropWhile (· ≠ '.')).tail.reverse else name

/-- The renderer of Markdown, and what is to be built. -/
structure PagesBuild where
  markdownToHtml : Chars → Chars
  lower : Lowercase
  pageType : PageType
  includeReadme : Bool

/-- The first heading, or the name of the file without its extension. -/
def extractTitle (content name : Chars) : Chars :=
  let lines := (content.splitOn '\n').map fun line => (trim (String.ofList line)).toList
  match lines.find? ("# ".toList.isPrefixOf ·) with
  | some heading => (trim (String.ofList (heading.drop 2))).toList
  | none => fileStem name

/-- A path in a checkout: the names from its root down. -/
abbrev FilePath := List Chars

def relativePath (path : FilePath) : Chars := ['/'].intercalate path

namespace PagesBuild
variable (build : PagesBuild)

def buildPage (path : FilePath) (rawContent : Chars) : Page where
  title := extractTitle rawContent (path.getLastD [])
  htmlContent := fixMarkdownLinks build.lower build.pageType (build.markdownToHtml rawContent)
  rawContent := rawContent
  relativePath := relativePath path
  slug := slugFromPath build.lower (relativePath path)

/-- Hidden files and directories, and the README unless it is wanted. -/
def skips (name : Chars) : Bool :=
  name.head? = some '.' || (!build.includeReadme && eqIgnoreAsciiCase name "readme.md".toList)

def isMarkdown (name : Chars) : Bool :=
  pathExtension name = some "md".toList || pathExtension name = some "markdown".toList

mutual
/-- One entry of a directory at a path: its page goes under its slug. -/
def scanEntry (base : FilePath) (name : Chars) : FsNode → Table Chars Page → Table Chars Page
  | .symlink, pages => pages
  | .dir entries, pages => if build.skips name then pages else scanDirectory (base ++ [name]) entries pages
  | .file content, pages =>
    if build.skips name then pages
    else if isMarkdown name then
      match content with
      | some rawContent =>
        let page := build.buildPage (base ++ [name]) rawContent
        pages.insert page.slug page
      | none => pages
    else pages

def scanDirectory (base : FilePath) : List (Chars × FsNode) → Table Chars Page → Table Chars Page
  | [], pages => pages
  | (name, node) :: rest, pages => scanDirectory base rest (scanEntry base name node pages)
end

def buildPages (entries : List (Chars × FsNode)) : Table Chars Page := build.scanDirectory [] entries .empty

mutual
/-- The page files of an entry or a directory, with what is in them. -/
def entryFiles (base : FilePath) (name : Chars) : FsNode → List (FilePath × Chars)
  | .symlink => []
  | .dir entries => if build.skips name then [] else pageFiles (base ++ [name]) entries
  | .file content =>
    if build.skips name then []
    else if isMarkdown name then content.toList.map fun rawContent => (base ++ [name], rawContent)
    else []

def pageFiles (base : FilePath) : List (Chars × FsNode) → List (FilePath × Chars)
  | [] => []
  | (name, node) :: rest => entryFiles base name node ++ pageFiles base rest
end

end PagesBuild

mutual
/-- The names in a directory are distinct, and none is empty or has a separator. -/
def FsNode.Valid : FsNode → Prop
  | .file _ => True
  | .symlink => True
  | .dir entries => (entries.map (·.1)).Nodup ∧ ValidEntries entries

def ValidEntries : List (Chars × FsNode) → Prop
  | [] => True
  | (name, node) :: rest => (name ≠ [] ∧ '/' ∉ name) ∧ node.Valid ∧ ValidEntries rest
end

/-- The checkout of a repository. -/
structure Checkout where
  entries : List (Chars × FsNode)
  distinct : (entries.map (·.1)).Nodup
  valid : ValidEntries entries

/-- A name a path may go through: not empty, without a separator, and not hidden. -/
def OpenName (name : Chars) : Prop := ∃ c rest, name = c :: rest ∧ c ≠ '.' ∧ '/' ∉ name

namespace PagesBuild
variable {build : PagesBuild}

mutual
theorem scanEntry_eq (base : FilePath) (name : Chars) : ∀ (node : FsNode) (pages : Table Chars Page),
    build.scanEntry base name node pages =
      ((build.entryFiles base name node).map fun file => build.buildPage file.1 file.2).foldl
        (fun t page => t.insert page.slug page) pages
  | .symlink, _ => rfl
  | .dir entries, pages => by
    simp only [scanEntry, entryFiles]
    split
    · rfl
    · exact scanDirectory_eq _ entries pages
  | .file content, pages => by
    simp only [scanEntry, entryFiles]
    split
    · rfl
    · split
      · cases content with
        | none => rfl
        | some rawContent => rfl
      · rfl

theorem scanDirectory_eq (base : FilePath) : ∀ (entries : List (Chars × FsNode)) (pages : Table Chars Page),
    build.scanDirectory base entries pages =
      ((build.pageFiles base entries).map fun file => build.buildPage file.1 file.2).foldl
        (fun t page => t.insert page.slug page) pages
  | [], _ => rfl
  | (name, node) :: rest, pages => by
    rw [scanDirectory, pageFiles, List.map_append, List.foldl_append, ← scanEntry_eq base name node,
      ← scanDirectory_eq base rest]
end

theorem buildPages_eq (entries : List (Chars × FsNode)) :
    build.buildPages entries =
      Table.index (·.slug) ((build.pageFiles [] entries).map fun file => build.buildPage file.1 file.2) :=
  scanDirectory_eq [] entries .empty

theorem openName_of_not_skips {name : Chars} (valid : name ≠ [] ∧ '/' ∉ name)
    (taken : build.skips name = false) : OpenName name := by
  obtain ⟨some_, free⟩ := valid
  obtain ⟨c, rest, rfl⟩ := List.exists_cons_of_ne_nil some_
  refine ⟨c, rest, rfl, ?_, free⟩
  rw [skips, Bool.or_eq_false_iff, decide_eq_false_iff_not] at taken
  rintro rfl
  exact taken.1 rfl

mutual
/-- A page file stands below its directory, under names that may be gone through. -/
theorem mem_entryFiles (base : FilePath) (name : Chars) (named : name ≠ [] ∧ '/' ∉ name) :
    ∀ (node : FsNode), node.Valid →
    ∀ file ∈ build.entryFiles base name node, ∃ below, file.1 = base ++ name :: below ∧
      ∀ part ∈ name :: below, OpenName part
  | .symlink, _, file, there => nomatch there
  | .dir entries, valid, file, there => by
    simp only [entryFiles] at there
    split at there
    · cases there
    · rename_i taken
      obtain ⟨first, below, path, -, names⟩ := mem_pageFiles (base ++ [name]) entries valid.2 file there
      refine ⟨first :: below,
        by rw [path, List.append_assoc, List.singleton_append], List.forall_mem_cons.mpr ⟨?_, names⟩⟩
      exact openName_of_not_skips named (Bool.not_eq_true _ ▸ taken)
  | .file content, _, file, there => by
    simp only [entryFiles] at there
    split at there
    · cases there
    · rename_i taken
      split at there
      · obtain ⟨rawContent, -, rfl⟩ := List.mem_map.mp there
        refine ⟨[], rfl, List.forall_mem_cons.mpr ⟨?_, nofun⟩⟩
        exact openName_of_not_skips named (Bool.not_eq_true _ ▸ taken)
      · cases there

theorem mem_pageFiles (base : FilePath) : ∀ (entries : List (Chars × FsNode)), ValidEntries entries →
    ∀ file ∈ build.pageFiles base entries, ∃ first below, file.1 = base ++ first :: below ∧
      first ∈ entries.map (·.1) ∧
      ∀ part ∈ first :: below, OpenName part
  | [], _, file, there => nomatch there
  | (name, node) :: rest, valid, file, there => by
    rw [pageFiles, List.mem_append] at there
    rcases there with here | later
    · obtain ⟨below, path, names⟩ := mem_entryFiles base name valid.1 node valid.2.1 file here
      exact ⟨name, below, path, List.mem_cons_self, names⟩
    · obtain ⟨first, below, path, listed, names⟩ := mem_pageFiles base rest valid.2.2 file later
      exact ⟨first, below, path, List.mem_cons_of_mem _ listed, names⟩
end

mutual
theorem nodup_entryFiles (base : FilePath) (name : Chars) : ∀ (node : FsNode), node.Valid →
    ((build.entryFiles base name node).map (·.1)).Nodup
  | .symlink, _ => List.nodup_nil
  | .dir entries, valid => by
    simp only [entryFiles]
    split
    · exact List.nodup_nil
    · exact nodup_pageFiles _ entries valid.1 valid.2
  | .file content, _ => by
    simp only [entryFiles]
    split
    · exact List.nodup_nil
    · split
      · cases content with
        | none => exact List.nodup_nil
        | some rawContent => exact List.nodup_singleton _
      · exact List.nodup_nil

theorem nodup_pageFiles (base : FilePath) : ∀ (entries : List (Chars × FsNode)), (entries.map (·.1)).Nodup →
    ValidEntries entries → ((build.pageFiles base entries).map (·.1)).Nodup
  | [], _, _ => List.nodup_nil
  | (name, node) :: rest, distinct, valid => by
    obtain ⟨fresh, others⟩ := List.nodup_cons.mp distinct
    rw [pageFiles, List.map_append]
    refine List.nodup_append.mpr
      ⟨nodup_entryFiles base name node valid.2.1, nodup_pageFiles base rest others valid.2.2, ?_⟩
    rintro path inFirst other inRest rfl
    obtain ⟨file, here, rfl⟩ := List.mem_map.mp inFirst
    obtain ⟨file', later, same⟩ := List.mem_map.mp inRest
    obtain ⟨below, path, -⟩ := mem_entryFiles base name valid.1 node valid.2.1 file here
    obtain ⟨first, below', path', listed, -⟩ := mem_pageFiles base rest valid.2.2 file' later
    rw [path, path'] at same
    obtain ⟨rfl, -⟩ := List.cons.inj (List.append_cancel_left same)
    exact fresh listed
end

end PagesBuild

namespace Checkout
variable (checkout : Checkout) (build : PagesBuild)

/-- The page files of a checkout. -/
def files : List (FilePath × Chars) := build.pageFiles [] checkout.entries

variable {checkout build}

theorem openNames {file : FilePath × Chars} (there : file ∈ checkout.files build) :
    file.1 ≠ [] ∧ ∀ part ∈ file.1, OpenName part := by
  obtain ⟨first, below, path, -, names⟩ := PagesBuild.mem_pageFiles [] checkout.entries checkout.valid file there
  rw [List.nil_append] at path
  rw [path]
  exact ⟨List.cons_ne_nil _ _, names⟩

theorem eq_of_path {file other : FilePath × Chars} (there : file ∈ checkout.files build)
    (alsoThere : other ∈ checkout.files build)
    (same : file.1 = other.1) : file = other :=
  List.inj_on_of_nodup_map (PagesBuild.nodup_pageFiles [] checkout.entries checkout.distinct checkout.valid)
    there alsoThere same

end Checkout

theorem relativePath_injective {path other : FilePath} (some_ : path ≠ []) (others : other ≠ [])
    (free : ∀ part ∈ path, '/' ∉ part)
    (free' : ∀ part ∈ other, '/' ∉ part) (same : relativePath path = relativePath other) : path = other := by
  have pieces := congrArg (List.splitOn '/') same
  rwa [relativePath, relativePath, List.splitOn_intercalate _ free some_,
    List.splitOn_intercalate _ free' others] at pieces

end CoopSpaces
