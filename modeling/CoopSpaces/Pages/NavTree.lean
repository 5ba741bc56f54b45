import CoopSpaces.Lib.Entries
import Mathlib.Data.List.Induction
import Mathlib.Data.List.Sort
import Mathlib.Data.String.Basic

namespace CoopSpaces

/-- The parts of a page the navigation needs. -/
structure NavSource where
  title : String
  slug : String
  path : String
  deriving DecidableEq

/-- One entry in the navigation tree. The slug is empty for a folder without a page of its own. -/
inductive NavNode where
  | mk (title slug path : String) (children : List NavNode)

namespace NavNode

def title : NavNode → String
  | .mk title _ _ _ => title

def slug : NavNode → String
  | .mk _ slug _ _ => slug

def children : NavNode → List NavNode
  | .mk _ _ _ children => children

mutual
/-- The node and all below it. -/
def nodes : NavNode → List NavNode
  | .mk title slug path children => .mk title slug path children :: nodesIn children

def nodesIn : List NavNode → List NavNode
  | [] => []
  | node :: rest => node.nodes ++ nodesIn rest
end

/-- A stable sort by title. -/
def sortByTitle (items : List NavNode) : List NavNode := items.insertionSort fun a b => a.title ≤ b.title

end NavNode

/-- A folder under construction: the page at its exact path, if any, and what is in it by name. -/
inductive Folder where
  | mk (page : Option NavSource) (children : List (String × Folder))

namespace Folder

def page : Folder → Option NavSource
  | .mk page _ => page

def children : Folder → List (String × Folder)
  | .mk _ children => children

def empty : Folder := .mk none []

/-- Descend along segments, making folders as needed, and put the page there. -/
def place (source : NavSource) : List String → Folder → Folder
  | [], .mk _ children => .mk (some source) children
  | segment :: rest, .mk page children =>
    .mk page (Entries.upsert segment (fun child => place source rest (child.getD empty)) children)

mutual
/-- The first page of a folder: its own, or the first of what is in it. -/
def firstPage : Folder → Option NavSource
  | .mk (some page) _ => some page
  | .mk none children => firstPageIn children

def firstPageIn : List (String × Folder) → Option NavSource
  | [] => none
  | (_, child) :: rest => child.firstPage.or (firstPageIn rest)
end

end Folder

/-- The segments of a text between separators. -/
def splitText (separator : Char) (text : String) : List String := (text.toList.splitOn separator).map String.ofList

/-- The segments of a slug, less the empty ones. -/
def slugSegments (slug : String) : List String := (splitText '/' slug).filter (· ≠ "")

def joinText (separator : String) (parts : List String) : String := String.intercalate separator parts

/-- The on-disk path of a folder without a page, recovered from any page beneath it. -/
def folderPath (folder : Folder) (depth : Nat) : String :=
  folder.firstPage.elim "" fun page => joinText "/" ((splitText '/' page.path).take depth)

/-- A readable title for a folder with no page to borrow one from. -/
def humanize (toUppercase : Char → String) (segment : String) : String :=
  let words := (segment.toList.splitOnP fun c => c = '-' || c = '_').filter (· ≠ [])
  joinText " " (words.map fun word =>
    match word with
    | first :: rest => toUppercase first ++ String.ofList rest
    | [] => "")

/-- The page of a folder's index, if it has one. -/
def indexPage (children : List (String × Folder)) : Option NavSource :=
  (Entries.get "index" children).bind Folder.page

section Build
variable (toUppercase : Char → String)

mutual
/-- One node, recursing into its own children. An index that lends the folder its page is passed over. -/
def nodeFor (segment : String) (names : List String) : Folder → NavNode
  | .mk page children =>
    let index := indexPage children
    let landing := page.or index
    .mk (landing.elim (humanize toUppercase segment) (·.title)) (landing.elim "" (·.slug))
      (landing.elim (folderPath (.mk page children) names.length) (·.path))
      (NavNode.sortByTitle (nodesFor (page.isNone && index.isSome) names children))

def nodesFor (skipIndex : Bool) (names : List String) : List (String × Folder) → List NavNode
  | [] => []
  | (segment, child) :: rest =>
    if segment = "index" && skipIndex then nodesFor skipIndex names rest
    else nodeFor segment (names ++ [segment]) child :: nodesFor skipIndex names rest
end

/-- The folders of all pages. -/
def buildFolders (pages : List NavSource) : Folder :=
  pages.foldl (fun root page => if (slugSegments page.slug).isEmpty then root
    else root.place page (slugSegments page.slug)) .empty

def buildNavigation (pages : List NavSource) : List NavNode :=
  NavNode.sortByTitle ((buildFolders pages).children.map fun (segment, child) => nodeFor toUppercase segment
    [segment] child)

end Build

namespace Folder

theorem induct {P : Folder → Prop} (step : ∀ page children, (∀ entry ∈ children, P entry.2) →
    P (.mk page children)) : ∀ folder, P folder
  | .mk page children => step page children (all children)
where
  all : ∀ children : List (String × Folder), ∀ entry ∈ children, P entry.2
  | [], _, there => nomatch there
  | (_, child) :: rest, entry, there => by
    rcases List.mem_cons.mp there with rfl | there
    · exact induct step child
    · exact all rest entry there

mutual
/-- The pages in a folder. -/
def pages : Folder → List NavSource
  | .mk page children => page.toList ++ pagesIn children

def pagesIn : List (String × Folder) → List NavSource
  | [] => []
  | (_, child) :: rest => child.pages ++ pagesIn rest
end

theorem pagesIn_eq (children : List (String × Folder)) : pagesIn children = children.flatMap (·.2.pages) := by
  induction children with
  | nil => rfl
  | cons entry rest ih => rw [pagesIn, ih, List.flatMap_cons]

/-- The folder at the end of a path, and the page there. -/
def folderAt : List String → Folder → Option Folder
  | [], folder => some folder
  | segment :: rest, folder => (Entries.get segment folder.children).bind (folderAt rest)

def pageAt (path : List String) (folder : Folder) : Option NavSource := (folder.folderAt path).bind page

/-- A folder's entries are in order, and each has a page somewhere. -/
inductive Proper : Folder → Prop
  | mk {page : Option NavSource} {children : List (String × Folder)} (sorted : Entries.Sorted children)
      (inhabited : ∀ entry ∈ children, entry.2.pages ≠ []) (proper : ∀ entry ∈ children, Proper entry.2) :
        Proper (.mk page children)

section Placing
variable {source other : NavSource} {path segments others : List String} {folder : Folder}

theorem proper_empty : Proper empty := .mk List.Pairwise.nil nofun nofun

theorem pageAt_empty : pageAt path empty = none := by
  cases path with
  | nil => rfl
  | cons segment rest => rfl

/-- Pages with different paths may be put in either order. -/
theorem place_comm (apart : segments ≠ others) :
    place source segments (place other others folder) = place other others (place source segments folder) := by
  induction segments generalizing others folder with
  | nil =>
    obtain ⟨page, children⟩ := folder
    cases others with
    | nil => exact absurd rfl apart
    | cons segment rest => rfl
  | cons first segments ih =>
    obtain ⟨page, children⟩ := folder
    cases others with
    | nil => rfl
    | cons second others =>
      simp only [place, mk.injEq, true_and]
      by_cases same : first = second
      · subst same
        have below : segments ≠ others := fun equal => apart (congrArg _ equal)
        simp only [Entries.upsert_upsert, Option.getD_some, ih below]
      · exact Entries.upsert_comm same

theorem pagesIn_upsert {children : List (String × Folder)} (sorted : Entries.Sorted children)
    (segment : String) (f : Option Folder → Folder) :
    ∃ rest, (pagesIn children).Perm (((Entries.get segment children).elim [] pages) ++ rest) ∧
      (pagesIn (Entries.upsert segment f children)).Perm ((f (Entries.get segment children)).pages ++ rest) := by
  simp only [pagesIn_eq]
  rcases found : Entries.get segment children with _ | child
  · obtain ⟨front, back, split, upserts⟩ := Entries.exists_split_of_none found
    refine ⟨children.flatMap (·.2.pages), .refl _, ?_⟩
    rw [upserts, split, List.flatMap_append, List.flatMap_append, List.flatMap_cons]
    exact List.perm_append_comm_assoc _ _ _
  · obtain ⟨front, back, split, -, upserts⟩ := Entries.exists_split_of_get sorted found
    refine ⟨(front ++ back).flatMap (·.2.pages), ?_, ?_⟩
    · rw [split, List.flatMap_append, List.flatMap_append, List.flatMap_cons]
      exact List.perm_append_comm_assoc _ _ _
    · rw [upserts, List.flatMap_append, List.flatMap_append, List.flatMap_cons]
      exact List.perm_append_comm_assoc _ _ _

section
variable (proper : Proper folder)
include proper

theorem Proper.sorted : Entries.Sorted folder.children := by
  cases proper with
  | mk sorted _ _ => exact sorted

theorem Proper.child {segment : String} {child : Folder} (found : Entries.get segment folder.children = some child) :
    child.pages ≠ [] ∧ Proper child := by
  cases proper with
  | mk _ inhabited all => exact ⟨inhabited _ (Entries.mem_of_get found), all _ (Entries.mem_of_get found)⟩

theorem Proper.getD (segment : String) : Proper ((Entries.get segment folder.children).getD empty) := by
  cases found : Entries.get segment folder.children with
  | none => exact proper_empty
  | some child => exact (proper.child found).2

/-- A page put where there is none is one more. -/
theorem pages_place (vacant : pageAt segments folder = none) :
    (place source segments folder).pages.Perm (source :: folder.pages) := by
  induction segments generalizing folder with
  | nil =>
    obtain ⟨page, children⟩ := folder
    obtain rfl : page = none := vacant
    exact .refl _
  | cons first segments ih =>
    have below := ih (proper.getD first) ?_
    · obtain ⟨page, children⟩ := folder
      obtain ⟨rest, before, after⟩ :=
        pagesIn_upsert proper.sorted first fun child => place source segments (child.getD empty)
      have entry : ((Entries.get first children).getD empty).pages = (Entries.get first children).elim [] pages := by
        cases Entries.get first children with
        | none => rfl
        | some child => rfl
      rw [show (Folder.mk page children).children = children from rfl, entry] at below
      have grown := after.trans (below.append_right rest)
      exact ((grown.trans (before.symm.cons source)).append_left page.toList).trans List.perm_middle
    · rw [pageAt, folderAt] at vacant
      cases found : Entries.get first folder.children with
      | none => exact pageAt_empty
      | some child =>
        rw [found, Option.bind_some] at vacant
        exact vacant

theorem pages_place_ne_nil : (place source segments folder).pages ≠ [] := by
  induction segments generalizing folder with
  | nil =>
    obtain ⟨page, children⟩ := folder
    exact List.cons_ne_nil _ _
  | cons first segments ih =>
    have below := ih (proper.getD first)
    obtain ⟨page, children⟩ := folder
    intro nothing
    obtain ⟨rest, -, after⟩ :=
      pagesIn_upsert proper.sorted first fun child => place source segments (child.getD empty)
    have inside := after.symm.trans (.of_eq (List.append_eq_nil_iff.mp nothing).2)
    exact below (List.append_eq_nil_iff.mp inside.eq_nil).1

theorem proper_place : Proper (place source segments folder) := by
  induction segments generalizing folder with
  | nil =>
    cases proper with
    | mk sorted inhabited all => exact .mk sorted inhabited all
  | cons first segments ih =>
    have below := ih (proper.getD first)
    have held : (place source segments ((Entries.get first folder.children).getD empty)).pages ≠ [] :=
      pages_place_ne_nil (proper.getD first)
    cases proper with
    | @mk page children sorted inhabited all =>
      have entries : ∀ entry ∈ Entries.upsert first (fun child => place source segments (child.getD empty)) children,
          entry.2.pages ≠ [] ∧ Proper entry.2 := by
        intro entry there
        have found := Entries.get_of_mem sorted.upsert there
        by_cases own : entry.1 = first
        · rw [own, Entries.get_upsert_self sorted] at found
          exact Option.some.inj found ▸ ⟨held, below⟩
        · rw [Entries.get_upsert_of_ne own] at found
          have old := Entries.mem_of_get found
          exact ⟨inhabited _ old, all _ old⟩
      exact .mk sorted.upsert (fun entry there => (entries entry there).1)
        (fun entry there => (entries entry there).2)

end

theorem pageAt_cons (segment : String) (rest : List String) (folder : Folder) :
    pageAt (segment :: rest) folder = (Entries.get segment folder.children).bind (pageAt rest) := by
  simp only [pageAt, folderAt, Option.bind_assoc]
  rfl

theorem pageAt_append (path rest : List String) (folder : Folder) :
    pageAt (path ++ rest) folder = (folder.folderAt path).bind (pageAt rest) := by
  induction path generalizing folder with
  | nil => rfl
  | cons segment path ih =>
    rw [List.cons_append, pageAt_cons, folderAt, Option.bind_assoc]
    exact congrArg (Option.bind _) (funext ih)

section
variable (proper : Proper folder)
include proper

theorem Proper.folderAt {there : Folder} (found : folder.folderAt path = some there) : Proper there := by
  induction path generalizing folder with
  | nil => exact Option.some.inj found ▸ proper
  | cons segment path ih =>
    obtain ⟨child, inside, below⟩ := Option.bind_eq_some_iff.mp found
    exact ih (proper.child inside).2 below

/-- The page is found where it was put, and the others where they were. -/
theorem pageAt_place (path : List String) :
    pageAt path (place source segments folder) = if path = segments then some source else pageAt path folder := by
  induction segments generalizing folder path with
  | nil =>
    obtain ⟨page, children⟩ := folder
    cases path with
    | nil => rfl
    | cons segment rest => rfl
  | cons first segments ih =>
    have below := ih (proper.getD first)
    obtain ⟨page, children⟩ := folder
    have sorted : Entries.Sorted children := proper.sorted
    cases path with
    | nil => rfl
    | cons segment rest =>
      have inside : (place source (first :: segments) (mk page children)).children =
          Entries.upsert first (fun child => place source segments (child.getD empty)) children := rfl
      rw [pageAt_cons, pageAt_cons, inside]
      by_cases own : segment = first
      · subst own
        rw [Entries.get_upsert_self sorted, Option.bind_some]
        have here := below rest
        refine here.trans ?_
        simp only [List.cons.injEq, true_and]
        split
        · rfl
        · show pageAt rest ((Entries.get segment children).getD empty) = (Entries.get segment children).bind
            (pageAt rest)
          cases Entries.get segment children with
          | none => exact pageAt_empty
          | some child => rfl
      · rw [Entries.get_upsert_of_ne own, if_neg (by simp [own])]
        rfl

/-- A proper folder with anything in it has a page at some path, and its pages are all at one. -/
theorem mem_pages_iff {page : NavSource} : page ∈ folder.pages ↔
    ∃ path, pageAt path folder = some page := by
  induction folder using induct with
  | step own children ih =>
    cases proper with
    | mk sorted inhabited all =>
      simp only [pages, pagesIn_eq, List.mem_append, Option.mem_toList, List.mem_flatMap]
      constructor
      · rintro (here | ⟨entry, there, member⟩)
        · exact ⟨[], here⟩
        · obtain ⟨path, found⟩ := (ih entry there (all entry there)).mp member
          refine ⟨entry.1 :: path, ?_⟩
          rw [pageAt_cons]
          exact (congrArg (·.bind (pageAt path)) (Entries.get_of_mem sorted there)).trans found
      · rintro ⟨_ | ⟨segment, rest⟩, found⟩
        · exact .inl found
        · rw [pageAt_cons] at found
          obtain ⟨child, there, below⟩ := Option.bind_eq_some_iff.mp found
          have entry := Entries.mem_of_get there
          exact .inr ⟨(segment, child), entry, (ih _ entry (all _ entry)).mpr ⟨rest, below⟩⟩

theorem children_ne_nil_iff : folder.children ≠ [] ↔
    ∃ rest ≠ [], (folder.pageAt rest).isSome := by
  constructor
  · intro some_
    obtain ⟨entry, there⟩ := List.exists_mem_of_ne_nil _ some_
    have inside := Entries.get_of_mem proper.sorted there
    obtain ⟨held, below⟩ := proper.child inside
    obtain ⟨page, member⟩ := List.exists_mem_of_ne_nil _ held
    obtain ⟨path, found⟩ := (mem_pages_iff below).mp member
    refine ⟨entry.1 :: path, List.cons_ne_nil _ _, ?_⟩
    rw [pageAt_cons, inside, Option.bind_some, found]
    rfl
  · rintro ⟨_ | ⟨segment, rest⟩, some_, found⟩ nothing
    · exact some_ rfl
    · rw [pageAt_cons, nothing] at found
      cases found

end

end Placing

end Folder

/-- A slug whose segments are not empty. -/
def ProperSlug (slug : String) : Prop := ∀ segment ∈ splitText '/' slug, segment ≠ ""

instance (slug : String) : Decidable (ProperSlug slug) :=
  inferInstanceAs (Decidable (∀ segment ∈ splitText '/' slug, segment ≠ ""))

theorem slugSegments_of_proper {slug : String} (proper : ProperSlug slug) :
    slugSegments slug = splitText '/' slug := by
  refine List.filter_eq_self.mpr fun segment there => ?_
  exact decide_eq_true (proper segment there)

theorem splitText_injective (separator : Char) : Function.Injective (splitText separator) := by
  intro text other same
  have pieces := List.map_injective_iff.mpr (fun _ _ => String.ofList_injective) same
  have joined := congrArg [separator].intercalate pieces
  rw [List.intercalate_splitOn, List.intercalate_splitOn] at joined
  exact String.toList_injective joined

theorem splitText_ne_nil (separator : Char) (text : String) : splitText separator text ≠ [] := by
  rw [splitText, ne_eq, List.map_eq_nil_iff]
  exact List.splitOn_ne_nil _ _

/-- The pages of a list as it should be: their slugs are distinct and have no empty segment. -/
structure NavPages (pages : List NavSource) : Prop where
  distinct : (pages.map (·.slug)).Nodup
  proper : ∀ page ∈ pages, ProperSlug page.slug

namespace NavPages
variable {pages : List NavSource}

theorem segments_ne_nil (given : NavPages pages) {page : NavSource} (there : page ∈ pages) :
    slugSegments page.slug ≠ [] := by
  rw [slugSegments_of_proper (given.proper page there)]
  exact splitText_ne_nil _ _

theorem eq_of_segments (given : NavPages pages) {page other : NavSource} (there : page ∈ pages)
    (alsoThere : other ∈ pages)
    (same : slugSegments page.slug = slugSegments other.slug) : page = other := by
  rw [slugSegments_of_proper (given.proper _ there), slugSegments_of_proper (given.proper _ alsoThere)] at same
  exact List.inj_on_of_nodup_map given.distinct there alsoThere (splitText_injective '/' same)

theorem slug_ne_empty (given : NavPages pages) {page : NavSource} (there : page ∈ pages) : page.slug ≠ "" := by
  intro nothing
  refine given.proper page there "" ?_ rfl
  rw [nothing]
  decide

theorem of_append {page : NavSource} (given : NavPages (pages ++ [page])) : NavPages pages := by
  refine ⟨?_, fun other there => given.proper other (List.mem_append_left _ there)⟩
  have distinct := given.distinct
  rw [List.map_append] at distinct
  exact distinct.of_append_left

/-- What building the folders comes to: each page at its segments, and all of them there. -/
theorem build (given : NavPages pages) :
    (buildFolders pages).Proper ∧ (buildFolders pages).page = none ∧ (buildFolders pages).pages.Perm pages ∧
      ∀ path page, (buildFolders pages).pageAt path = some page ↔ page ∈ pages ∧ slugSegments page.slug = path := by
  induction pages using List.reverseRecOn with
  | nil =>
    refine ⟨Folder.proper_empty, rfl, .refl _, fun path page => ?_⟩
    rw [show buildFolders [] = Folder.empty from rfl, Folder.pageAt_empty]
    exact iff_of_false nofun nofun
  | append_singleton pages page ih =>
    obtain ⟨proper, bare, all, found⟩ := ih given.of_append
    have last : page ∈ pages ++ [page] := List.mem_append_right _ (List.mem_singleton_self _)
    have some_ := given.segments_ne_nil last
    have built : buildFolders (pages ++ [page]) = (buildFolders pages).place page (slugSegments page.slug) := by
      rw [buildFolders, List.foldl_append, List.foldl_cons, List.foldl_nil, ← buildFolders,
        if_neg (by rwa [List.isEmpty_iff])]
    have fresh : page ∉ pages := by
      intro there
      have distinct := given.distinct
      rw [List.map_append] at distinct
      exact List.disjoint_of_nodup_append distinct (List.mem_map_of_mem there) (List.mem_singleton_self _)
    have vacant : (buildFolders pages).pageAt (slugSegments page.slug) = none := by
      rw [Option.eq_none_iff_forall_ne_some]
      intro other there
      obtain ⟨member, same⟩ := (found _ _).mp there
      have equal := given.eq_of_segments (List.mem_append_left _ member) last same
      exact fresh (equal ▸ member)
    rw [built]
    refine ⟨Folder.proper_place proper, ?_, ?_, ?_⟩
    · obtain ⟨first, rest, split⟩ := List.exists_cons_of_ne_nil some_
      rw [split]
      cases folder : buildFolders pages with
      | mk own children =>
        rw [folder] at bare
        exact bare
    · refine (Folder.pages_place proper vacant).trans ?_
      exact (all.cons page).trans (List.perm_append_singleton page pages).symm
    · intro path other
      rw [Folder.pageAt_place proper, List.mem_append, List.mem_singleton]
      by_cases here : path = slugSegments page.slug
      · rw [if_pos here]
        constructor
        · intro same
          cases same
          exact ⟨.inr rfl, here.symm⟩
        · rintro ⟨there, same⟩
          refine congrArg some (given.eq_of_segments last ?_ (here.symm.trans same.symm))
          rwa [List.mem_append, List.mem_singleton]
      · rw [if_neg here, found]
        constructor
        · exact fun ⟨there, same⟩ => ⟨.inl there, same⟩
        · rintro ⟨there | rfl, same⟩
          · exact ⟨there, same⟩
          · exact absurd same.symm here

theorem buildFolders_perm (given : NavPages pages) {others : List NavSource} (perm : pages.Perm others) :
    buildFolders pages = buildFolders others := by
  refine perm.foldl_eq' (fun page there other alsoThere root => ?_) _
  have some_ := given.segments_ne_nil there
  have some_' := given.segments_ne_nil alsoThere
  simp only [List.isEmpty_iff, some_, some_', if_false]
  by_cases same : slugSegments page.slug = slugSegments other.slug
  · rw [given.eq_of_segments there alsoThere same]
  · exact Folder.place_comm (Ne.symm same)

end NavPages

end CoopSpaces
