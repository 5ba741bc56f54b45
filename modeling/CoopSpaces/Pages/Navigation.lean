import CoopSpaces.Pages.NavTree

namespace CoopSpaces

namespace Folder

mutual
/-- The pages of a folder that its node shows, itself or below. -/
def kept : Folder → List NavSource
  | .mk page children =>
    (page.or (indexPage children)).toList ++ keptIn (page.isNone && (indexPage children).isSome) children

def keptIn (skipIndex : Bool) : List (String × Folder) → List NavSource
  | [] => []
  | (segment, child) :: rest => (if segment = "index" && skipIndex then [] else child.kept) ++ keptIn skipIndex rest
end

mutual
/-- The pages that it does not show: those below an index that lends the folder its page. -/
def lost : Folder → List NavSource
  | .mk page children => lostIn (page.isNone && (indexPage children).isSome) children

def lostIn (skipIndex : Bool) : List (String × Folder) → List NavSource
  | [] => []
  | (segment, child) :: rest =>
    (if segment = "index" && skipIndex then pagesIn child.children else child.lost) ++ lostIn skipIndex rest
end

/-- A folder hides pages: it has none of its own, and its index is a page and a folder. -/
def Hides (folder : Folder) : Prop :=
  folder.page = none ∧ ∃ index, Entries.get "index" folder.children = some index ∧ index.page.isSome ∧
    index.children ≠ []

-- the equations that the proofs below rewrite with
attribute [local simp] kept keptIn lost lostIn

section Keeping
variable {children : List (String × Folder)} {folder : Folder}

theorem keptIn_of_absent (absent : ∀ entry ∈ children, entry.1 ≠ "index") (skipIndex : Bool) :
    keptIn skipIndex children = keptIn false children ∧ lostIn skipIndex children = lostIn false children := by
  induction children with
  | nil => exact ⟨rfl, rfl⟩
  | cons entry rest ih =>
    obtain ⟨segment, child⟩ := entry
    have apart : segment ≠ "index" := absent _ List.mem_cons_self
    obtain ⟨keeps, loses⟩ := ih fun entry there => absent entry (List.mem_cons_of_mem _ there)
    simp only [keptIn, lostIn, apart, decide_false, Bool.false_and, Bool.false_eq_true, if_false, keeps,
      loses, and_self]

theorem keptIn_append (skipIndex : Bool) (front back : List (String × Folder)) :
    keptIn skipIndex (front ++ back) = keptIn skipIndex front ++ keptIn skipIndex back ∧
      lostIn skipIndex (front ++ back) = lostIn skipIndex front ++ lostIn skipIndex back := by
  induction front with
  | nil => exact ⟨rfl, rfl⟩
  | cons entry rest ih =>
    simp only [List.cons_append, keptIn, lostIn, ih.1, ih.2, List.append_assoc, and_self]

theorem perm_keptIn (each : ∀ entry ∈ children, entry.2.pages.Perm (entry.2.kept ++ entry.2.lost)) :
    (pagesIn children).Perm (keptIn false children ++ lostIn false children) := by
  induction children with
  | nil => exact .refl _
  | cons entry rest ih =>
    obtain ⟨segment, child⟩ := entry
    have first : child.pages.Perm (child.kept ++ child.lost) := each _ List.mem_cons_self
    have later := ih fun entry there => each entry (List.mem_cons_of_mem _ there)
    simp only [pagesIn, keptIn, lostIn, Bool.and_false, Bool.false_eq_true, if_false]
    rw [List.perm_iff_count]
    intro page
    have firstCount := first.count_eq page
    have laterCount := later.count_eq page
    simp only [List.count_append] at firstCount laterCount ⊢
    omega

/-- Where the index is passed over, its page is the folder's, and what is below it is lost. -/
theorem perm_keptIn_of_index (sorted : Entries.Sorted children) {index : Folder} {page : NavSource}
    (found : Entries.get "index" children = some index) (landing : index.page = some page)
    (each : ∀ entry ∈ children, entry.2.pages.Perm (entry.2.kept ++ entry.2.lost)) :
    (pagesIn children).Perm (page :: keptIn true children ++ lostIn true children) := by
  obtain ⟨front, back, rfl, others, -⟩ := Entries.exists_split_of_get sorted found
  have inFront := keptIn_of_absent (fun entry there => others entry (List.mem_append_left _ there)) true
  have inBack := keptIn_of_absent (fun entry there => others entry (List.mem_append_right _ there)) true
  have permFront := perm_keptIn fun entry there => each entry (List.mem_append_left _ there)
  have permBack := perm_keptIn fun entry there => each entry (List.mem_append_right _ (List.mem_cons_of_mem _ there))
  have own : index.pages = page :: pagesIn index.children := by
    obtain ⟨_, below⟩ := index
    obtain rfl : _ = some page := landing
    rfl
  rw [(keptIn_append true front _).1, (keptIn_append true front _).2]
  simp only [keptIn, lostIn, decide_true, Bool.and_self, if_true, inFront, inBack, List.nil_append]
  rw [pagesIn_eq, List.flatMap_append, List.flatMap_cons, ← pagesIn_eq, ← pagesIn_eq, own, List.perm_iff_count]
  intro counted
  have frontCount := permFront.count_eq counted
  have backCount := permBack.count_eq counted
  simp only [List.count_append, List.count_cons] at frontCount backCount ⊢
  omega

theorem indexPage_eq_some {page : NavSource} : indexPage children = some page ↔
    ∃ index, Entries.get "index" children = some index ∧ index.page = some page := Option.bind_eq_some_iff

theorem perm_kept (proper : Proper folder) : folder.pages.Perm (folder.kept ++ folder.lost) := by
  induction folder using induct with
  | step page children ih =>
    cases proper with
    | mk sorted inhabited all =>
      have each : ∀ entry ∈ children, entry.2.pages.Perm (entry.2.kept ++ entry.2.lost) :=
        fun entry there => ih entry there (all entry there)
      simp only [pages, kept, lost, List.append_assoc]
      cases page with
      | some page => exact (perm_keptIn each).append_left _
      | none =>
        cases lends : indexPage children with
        | none => exact perm_keptIn each
        | some page =>
          obtain ⟨index, found, landing⟩ := indexPage_eq_some.mp lends
          exact perm_keptIn_of_index sorted found landing each

theorem lostIn_eq_nil (skipIndex : Bool) : lostIn skipIndex children = [] ↔
    ∀ entry ∈ children, if entry.1 = "index" && skipIndex then pagesIn entry.2.children = []
      else entry.2.lost = [] := by
  induction children with
  | nil => exact iff_of_true rfl nofun
  | cons entry rest ih =>
    obtain ⟨segment, child⟩ := entry
    rw [lostIn, List.append_eq_nil_iff, ih, List.forall_mem_cons]
    refine and_congr_left fun _ => ?_
    split
    · exact Iff.rfl
    · exact Iff.rfl

theorem Proper.pagesIn_eq_nil (proper : Proper folder) : pagesIn folder.children = [] ↔ folder.children = [] := by
  cases proper with
  | mk sorted inhabited all =>
    rw [pagesIn_eq, List.flatMap_eq_nil_iff]
    constructor
    · intro nothing
      exact List.eq_nil_iff_forall_not_mem.mpr fun entry there => inhabited entry there (nothing entry there)
    · intro nothing entry there
      rw [nothing] at there
      cases there

theorem folderAt_of_children_nil (bare : folder.children = []) {path : List String} {there : Folder}
    (found : folder.folderAt path = some there) :
    there = folder := by
  cases path with
  | nil => exact (Option.some.inj found).symm
  | cons segment rest =>
    rw [folderAt, bare] at found
    cases found

/-- Nothing of a folder is lost exactly when no folder in it hides anything. -/
theorem lost_eq_nil_iff (proper : Proper folder) : folder.lost = [] ↔
    ∀ path there, folder.folderAt path = some there → ¬ there.Hides := by
  induction folder using induct with
  | step page children ih =>
    cases proper with
    | mk sorted inhabited all =>
      rw [lost, lostIn_eq_nil]
      constructor
      · rintro each (_ | ⟨segment, rest⟩) there found ⟨bare, index, isIndex, landing, some_⟩
        · obtain rfl := Option.some.inj found
          have entry := Entries.mem_of_get isIndex
          have here := each _ entry
          obtain ⟨source, ofIndex⟩ := Option.isSome_iff_exists.mp landing
          have lends : indexPage children = some source := indexPage_eq_some.mpr ⟨index, isIndex, ofIndex⟩
          obtain rfl : page = none := bare
          rw [lends] at here
          exact some_ ((all _ entry).pagesIn_eq_nil.mp here)
        · obtain ⟨child, inside, below⟩ := Option.bind_eq_some_iff.mp found
          have entry := Entries.mem_of_get inside
          have here := each _ entry
          split at here
          · have nothing := (all _ entry).pagesIn_eq_nil.mp here
            obtain rfl := folderAt_of_children_nil nothing below
            rw [nothing] at isIndex
            cases isIndex
          · exact (ih _ entry (all _ entry)).mp here rest there below ⟨bare, index, isIndex, landing, some_⟩
      · intro none_ entry there
        have inside := Entries.get_of_mem sorted there
        split
        · rename_i skipped
          rw [Bool.and_eq_true, Bool.and_eq_true, decide_eq_true_eq, Option.isNone_iff_eq_none] at skipped
          obtain ⟨isIndex, rfl, lends⟩ := skipped
          obtain ⟨source, lends⟩ := Option.isSome_iff_exists.mp lends
          obtain ⟨index, found, landing⟩ := indexPage_eq_some.mp lends
          rw [isIndex, found] at inside
          obtain rfl := Option.some.inj inside
          rw [(all _ there).pagesIn_eq_nil]
          by_contra some_
          exact none_ [] _ rfl ⟨rfl, entry.2, found, by rw [landing]; rfl, some_⟩
        · refine (ih entry there (all entry there)).mpr fun path folder found => ?_
          refine none_ (entry.1 :: path) folder ?_
          exact (congrArg (·.bind (folderAt path)) inside).trans found

end Keeping

end Folder

namespace NavNode

theorem nodesIn_eq (items : List NavNode) : nodesIn items = items.flatMap nodes := by
  induction items with
  | nil => rfl
  | cons node rest ih => rw [nodesIn, ih, List.flatMap_cons]

theorem nodesIn_sortByTitle (items : List NavNode) : (nodesIn (sortByTitle items)).Perm (nodesIn items) := by
  rw [nodesIn_eq, nodesIn_eq]
  exact (List.perm_insertionSort _ _).flatMap_right _

theorem nodes_eq (node : NavNode) : node.nodes = node :: nodesIn node.children := by
  cases node
  rfl

/-- The slugs that nodes link to. -/
def links (items : List NavNode) : List String := ((nodesIn items).map slug).filter (· ≠ "")

theorem count_links {items : List NavNode} {target : String} (some_ : target ≠ "") :
    ((nodesIn items).map slug).count target = (links items).count target := by
  rw [links, List.count_filter]
  exact decide_eq_true some_

theorem links_append (items others : List NavNode) : links (items ++ others) = links items ++ links others := by
  simp only [links, nodesIn_eq, List.flatMap_append, List.map_append, List.filter_append]

theorem links_singleton (node : NavNode) : links [node] = [node.slug].filter (· ≠ "") ++ links node.children := by
  rw [links, nodesIn_eq, List.flatMap_singleton, nodes_eq, List.map_cons, ← List.singleton_append, List.filter_append]
  rfl

theorem links_sortByTitle (items : List NavNode) : (links (sortByTitle items)).Perm (links items) :=
  ((nodesIn_sortByTitle items).map _).filter _

/-- A page's node, or a group with a page below it. -/
def Shows (pages : List NavSource) (node : NavNode) : Prop :=
  (∃ page ∈ pages, node.slug = page.slug) ∨
    node.slug = "" ∧ ∃ below ∈ nodesIn node.children, ∃ page ∈ pages, below.slug = page.slug

theorem Shows.mono {pages others : List NavSource} (more : pages ⊆ others) {node : NavNode}
    (shows_ : node.Shows pages) :
    node.Shows others := by
  rcases shows_ with ⟨page, there, same⟩ | ⟨group, below, inside, page, there, same⟩
  · exact .inl ⟨page, more there, same⟩
  · exact .inr ⟨group, below, inside, page, more there, same⟩

end NavNode

section Nodes
variable (toUppercase : Char → String) {folder : Folder} {children : List (String × Folder)}

theorem links_nodesFor (skipIndex : Bool) (names : List String)
    (each : ∀ entry ∈ children, ∀ segment names,
      (NavNode.links [nodeFor toUppercase segment names entry.2]).Perm (entry.2.kept.map (·.slug))) :
    (NavNode.links (nodesFor toUppercase skipIndex names children)).Perm
    ((Folder.keptIn skipIndex children).map (·.slug)) := by
  induction children with
  | nil => exact .refl _
  | cons entry rest ih =>
    obtain ⟨segment, child⟩ := entry
    have first := each _ List.mem_cons_self segment (names ++ [segment])
    have later := ih fun entry there => each entry (List.mem_cons_of_mem _ there)
    simp only [nodesFor, Folder.keptIn]
    split
    · exact later
    · rw [← List.singleton_append, NavNode.links_append, List.map_append]
      exact first.append later

/-- A folder's node links to the pages that the folder keeps. -/
theorem links_nodeFor (named : ∀ page ∈ folder.pages, page.slug ≠ "") (segment : String) (names : List String) :
    (NavNode.links [nodeFor toUppercase segment names folder]).Perm (folder.kept.map (·.slug)) := by
  induction folder using Folder.induct generalizing segment names with
  | step page children ih =>
    have inside : ∀ entry ∈ children, ∀ page ∈ entry.2.pages, page.slug ≠ "" := by
      intro entry there page member
      refine named page ?_
      rw [Folder.pages, Folder.pagesIn_eq]
      exact List.mem_append_right _ (List.mem_flatMap.mpr ⟨entry, there, member⟩)
    have below := links_nodesFor toUppercase (page.isNone && (indexPage children).isSome) names
      fun entry there segment names => ih entry there (inside entry there) segment names
    have landing : [(page.or (indexPage children)).elim "" (·.slug)].filter (· ≠ "") =
        (page.or (indexPage children)).toList.map (·.slug) := by
      cases lands : page.or (indexPage children) with
      | none => rfl
      | some source =>
        have some_ : source.slug ≠ "" := by
          rcases Option.or_eq_some_iff.mp lands with own | ⟨-, lends⟩
          · refine named source (List.mem_append_left _ ?_)
            exact Option.mem_toList.mpr own
          · obtain ⟨index, found, ofIndex⟩ := Folder.indexPage_eq_some.mp lends
            refine inside _ (Entries.mem_of_get found) source ?_
            obtain ⟨_, _⟩ := index
            obtain rfl : _ = some source := ofIndex
            exact List.mem_cons_self
        simp [some_]
    rw [nodeFor, NavNode.links_singleton, Folder.kept, List.map_append, ← landing]
    exact ((NavNode.links_sortByTitle _).trans below).append_left _

theorem mem_nodesFor {skipIndex : Bool} {names : List String} {node : NavNode} :
    node ∈ nodesFor toUppercase skipIndex names children ↔
    ∃ entry ∈ children, (entry.1 = "index" && skipIndex) = false ∧
      node = nodeFor toUppercase entry.1 (names ++ [entry.1]) entry.2 := by
  induction children with
  | nil => exact iff_of_false List.not_mem_nil nofun
  | cons entry rest ih =>
    obtain ⟨segment, child⟩ := entry
    simp only [nodesFor, List.exists_mem_cons_iff]
    split
    · rename_i skipped
      rw [ih, skipped]
      exact ⟨.inr, fun here => here.elim nofun id⟩
    · rename_i taken
      rw [List.mem_cons, ih, Bool.not_eq_true] at *
      rw [taken]
      exact or_congr_left (and_iff_right rfl).symm

/-- Every node of a folder's is a page's or has one below it. -/
theorem nodeFor_shows (proper : folder.Proper) (held : folder.pages ≠ []) (segment : String) (names : List String) :
    ∀ node ∈ (nodeFor toUppercase segment names folder).nodes, node.Shows folder.pages := by
  induction folder using Folder.induct generalizing segment names with
  | step page children ih =>
    cases proper with
    | mk sorted inhabited all =>
      have within : ∀ entry ∈ children, entry.2.pages ⊆ (Folder.mk page children).pages := by
        intro entry there source member
        rw [Folder.pages, Folder.pagesIn_eq]
        exact List.mem_append_right _ (List.mem_flatMap.mpr ⟨entry, there, member⟩)
      have below : ∀ node ∈ NavNode.nodesIn (nodeFor toUppercase segment names (.mk page children)).children,
          node.Shows (Folder.mk page children).pages := by
        intro node there
        rw [nodeFor] at there
        have member := (NavNode.nodesIn_sortByTitle _).mem_iff.mp there
        rw [NavNode.nodesIn_eq, List.mem_flatMap] at member
        obtain ⟨top, listed, inside⟩ := member
        obtain ⟨entry, isEntry, -, rfl⟩ := (mem_nodesFor toUppercase).mp listed
        exact (ih entry isEntry (all entry isEntry) (inhabited entry isEntry) _ _ node inside).mono
          (within entry isEntry)
      rw [NavNode.nodes_eq]
      refine List.forall_mem_cons.mpr ⟨?_, below⟩
      cases lands : page.or (indexPage children) with
      | some source =>
        refine .inl ⟨source, ?_, by rw [nodeFor, lands]; rfl⟩
        rcases Option.or_eq_some_iff.mp lands with own | ⟨-, lends⟩
        · exact List.mem_append_left _ (Option.mem_toList.mpr own)
        · obtain ⟨index, found, ofIndex⟩ := Folder.indexPage_eq_some.mp lends
          refine within _ (Entries.mem_of_get found) ?_
          obtain ⟨_, _⟩ := index
          obtain rfl : _ = some source := ofIndex
          exact List.mem_cons_self
      | none =>
        obtain ⟨rfl, bare⟩ := Option.or_eq_none_iff.mp lands
        obtain ⟨entry, there⟩ : ∃ entry, entry ∈ children := by
          refine List.exists_mem_of_ne_nil _ fun nothing => held ?_
          rw [Folder.pages, nothing]
          rfl
        have first : nodeFor toUppercase entry.1 (names ++ [entry.1]) entry.2 ∈ nodesFor toUppercase false
            names children :=
          (mem_nodesFor toUppercase).mpr ⟨entry, there, Bool.and_false _, rfl⟩
        have top := ih entry there (all entry there) (inhabited entry there) entry.1 (names ++ [entry.1]) _
          (by rw [NavNode.nodes_eq]; exact List.mem_cons_self)
        have listed : ∀ node ∈ (nodeFor toUppercase entry.1 (names ++ [entry.1]) entry.2).nodes,
            node ∈ NavNode.nodesIn (nodeFor toUppercase segment names (.mk none children)).children := by
          intro node inside
          rw [nodeFor, bare]
          refine (NavNode.nodesIn_sortByTitle _).mem_iff.mpr ?_
          rw [NavNode.nodesIn_eq]
          exact List.mem_flatMap.mpr ⟨_, first, inside⟩
        refine .inr ⟨by rw [nodeFor, lands]; rfl, ?_⟩
        rcases top with ⟨source, member, same⟩ | ⟨-, node, inside, source, member, same⟩
        · exact ⟨_,
            listed _ (by rw [NavNode.nodes_eq]; exact List.mem_cons_self), source, within entry there member, same⟩
        · exact ⟨node,
            listed _ (by rw [NavNode.nodes_eq]; exact List.mem_cons_of_mem _ inside), source,
              within entry there member, same⟩

end Nodes

/-- A folder without a page of its own, whose index is a page and has pages below it. -/
def HiddenBelow (pages : List NavSource) (folder : List String) : Prop :=
  (∀ page ∈ pages, splitText '/' page.slug ≠ folder) ∧
    (∃ page ∈ pages, splitText '/' page.slug = folder ++ ["index"]) ∧
    ∃ page ∈ pages, ∃ rest ≠ [], splitText '/' page.slug = folder ++ "index" :: rest

/-- Each page's slug occurs once in the tree, every other node is a group with a page below it, and
the order of the pages does not matter. -/
structure Navigates (toUppercase : Char → String) (pages : List NavSource) : Prop where
  once : ∀ page ∈ pages, ((NavNode.nodesIn (buildNavigation toUppercase pages)).map (·.slug)).count page.slug = 1
  shows_ : ∀ node ∈ NavNode.nodesIn (buildNavigation toUppercase pages), node.Shows pages
  orderless : ∀ others, pages.Perm others → buildNavigation toUppercase others = buildNavigation toUppercase pages

namespace NavPages
variable {pages : List NavSource} (toUppercase : Char → String)

theorem pageAt_iff (given : NavPages pages) {path : List String} {page : NavSource} :
    (buildFolders pages).pageAt path = some page ↔ page ∈ pages ∧ splitText '/' page.slug = path := by
  rw [given.build.2.2.2]
  refine and_congr_right fun there => ?_
  rw [slugSegments_of_proper (given.proper page there)]

/-- The folders that hide pages are those whose paths do. -/
theorem hides_iff (given : NavPages pages) (path : List String) :
    (∃ folder, (buildFolders pages).folderAt path = some folder ∧ folder.Hides) ↔ HiddenBelow pages path := by
  have proper := given.build.1
  have find : ∀ path, (∃ page ∈ pages, splitText '/' page.slug = path) ↔
      ((buildFolders pages).pageAt path).isSome := by
    intro path
    rw [Option.isSome_iff_exists]
    exact exists_congr fun page => given.pageAt_iff.symm
  have bare : (∀ page ∈ pages, splitText '/' page.slug ≠ path) ↔ (buildFolders pages).pageAt path = none := by
    rw [← Option.not_isSome_iff_eq_none, ← find path]
    push Not
    exact Iff.rfl
  have below : (∃ page ∈ pages, ∃ rest ≠ [], splitText '/' page.slug = path ++ "index" :: rest) ↔
      ∃ rest ≠ [], ((buildFolders pages).pageAt (path ++ "index" :: rest)).isSome := by
    simp only [← find]
    constructor
    · rintro ⟨page, there, rest, some_, same⟩
      exact ⟨rest, some_, page, there, same⟩
    · rintro ⟨rest, some_, page, there, same⟩
      exact ⟨page, there, rest, some_, same⟩
  rw [HiddenBelow, bare, find, below, Folder.pageAt_append]
  cases found : (buildFolders pages).folderAt path with
  | none =>
    rw [Option.bind_none]
    exact iff_of_false nofun fun hidden => by cases hidden.2.1
  | some folder =>
    have here : (buildFolders pages).pageAt path = folder.page := by rw [Folder.pageAt, found, Option.bind_some]
    have there := proper.folderAt found
    simp only [Option.some.injEq, exists_eq_left', Option.bind_some, here, Folder.pageAt_append, found,
      Folder.pageAt_cons]
    refine and_congr_right fun _ => ?_
    constructor
    · rintro ⟨index, isIndex, landing, some_⟩
      rw [isIndex]
      exact ⟨landing, (Folder.children_ne_nil_iff (there.child isIndex).2).mp some_⟩
    · rintro ⟨landing, rest, some_, further⟩
      cases isIndex : Entries.get "index" folder.children with
      | none =>
        rw [isIndex] at landing
        cases landing
      | some index =>
        rw [isIndex] at landing further
        exact ⟨index, rfl, landing, (Folder.children_ne_nil_iff (there.child isIndex).2).mpr ⟨rest, some_, further⟩⟩

theorem buildNavigation_eq (pages : List NavSource) :
    buildNavigation toUppercase pages =
      NavNode.sortByTitle (nodesFor toUppercase false [] (buildFolders pages).children) := by
  have entries : ∀ children : List (String × Folder),
      children.map (fun entry => nodeFor toUppercase entry.1 [entry.1] entry.2) = nodesFor toUppercase false
        [] children := by
    intro children
    induction children with
    | nil => rfl
    | cons entry rest ih =>
      rw [List.map_cons, ih, nodesFor, Bool.and_false, if_neg Bool.false_ne_true]
      rfl
  exact congrArg NavNode.sortByTitle (entries _)

theorem perm_kept (given : NavPages pages) :
    pages.Perm (Folder.keptIn false (buildFolders pages).children ++
      Folder.lostIn false (buildFolders pages).children) := by
  obtain ⟨proper, bare, all, -⟩ := given.build
  refine all.symm.trans ?_
  cases folder : buildFolders pages with
  | mk page children =>
    rw [folder] at proper bare
    obtain rfl : page = none := bare
    cases proper with
    | mk sorted inhabited each => exact Folder.perm_keptIn fun entry there => Folder.perm_kept (each entry there)

theorem links_buildNavigation (given : NavPages pages) :
    (NavNode.links (buildNavigation toUppercase pages)).Perm
    ((Folder.keptIn false (buildFolders pages).children).map (·.slug)) := by
  have all := given.build.2.2.1
  rw [buildNavigation_eq]
  refine (NavNode.links_sortByTitle _).trans (links_nodesFor toUppercase false [] fun entry there segment names => ?_)
  refine links_nodeFor toUppercase (fun page member => ?_) segment names
  refine given.slug_ne_empty (all.mem_iff.mp ?_)
  cases folder : buildFolders pages with
  | mk own children =>
    rw [folder] at there
    rw [Folder.pages, Folder.pagesIn_eq]
    exact List.mem_append_right _ (List.mem_flatMap.mpr ⟨entry, there, member⟩)

/-- Each page's slug is in the tree once exactly when no page is lost. -/
theorem once_iff (given : NavPages pages) :
    (∀ page ∈ pages, ((NavNode.nodesIn (buildNavigation toUppercase pages)).map (·.slug)).count page.slug = 1) ↔
      Folder.lostIn false (buildFolders pages).children = [] := by
  have shown := given.links_buildNavigation toUppercase
  have split := given.perm_kept
  have slugs := split.map (·.slug)
  have distinct := slugs.nodup_iff.mp given.distinct
  rw [List.map_append] at slugs distinct
  have counts : ∀ page ∈ pages, ((NavNode.nodesIn (buildNavigation toUppercase pages)).map (·.slug)).count page.slug =
      ((Folder.keptIn false (buildFolders pages).children).map (·.slug)).count page.slug := by
    intro page there
    rw [NavNode.count_links (given.slug_ne_empty there), shown.count_eq]
  constructor
  · intro once
    refine List.eq_nil_iff_forall_not_mem.mpr fun page lost => ?_
    have there := split.mem_iff.mpr (List.mem_append_right _ lost)
    have one := (counts page there).symm.trans (once page there)
    have kept : page.slug ∈ (Folder.keptIn false (buildFolders pages).children).map (·.slug) := by
      rw [← List.count_pos_iff, one]
      exact Nat.one_pos
    exact List.disjoint_of_nodup_append distinct kept (List.mem_map_of_mem lost)
  · intro nothing page there
    rw [counts page there]
    rw [nothing, List.map_nil, List.append_nil] at slugs distinct
    exact List.count_eq_one_of_mem distinct (slugs.mem_iff.mp (List.mem_map_of_mem there))

theorem lost_eq_nil_iff (given : NavPages pages) :
    Folder.lostIn false (buildFolders pages).children = [] ↔ ∀ folder ≠ [], ¬ HiddenBelow pages folder := by
  have proper := given.build.1
  rw [Folder.lostIn_eq_nil]
  simp only [Bool.and_false, Bool.false_eq_true, if_false, ← given.hides_iff, not_exists, not_and]
  constructor
  · rintro nothing (_ | ⟨segment, path⟩) some_ folder found
    · exact absurd rfl some_
    · obtain ⟨child, inside, below⟩ := Option.bind_eq_some_iff.mp found
      have entry := Entries.mem_of_get inside
      exact (Folder.lost_eq_nil_iff (proper.child inside).2).mp (nothing _ entry) path folder below
  · intro none_ entry there
    have inside := Entries.get_of_mem proper.sorted there
    refine (Folder.lost_eq_nil_iff (proper.child inside).2).mpr fun path folder found => ?_
    refine none_ (entry.1 :: path) (List.cons_ne_nil _ _) folder ?_
    exact (congrArg (·.bind (Folder.folderAt path)) inside).trans found

theorem shows_buildNavigation (given : NavPages pages) :
    ∀ node ∈ NavNode.nodesIn (buildNavigation toUppercase pages), node.Shows pages := by
  obtain ⟨proper, -, all, -⟩ := given.build
  intro node there
  rw [buildNavigation_eq] at there
  have member := (NavNode.nodesIn_sortByTitle _).mem_iff.mp there
  rw [NavNode.nodesIn_eq, List.mem_flatMap] at member
  obtain ⟨top, listed, inside⟩ := member
  obtain ⟨entry, isEntry, -, rfl⟩ := (mem_nodesFor toUppercase).mp listed
  obtain ⟨held, below⟩ := proper.child (Entries.get_of_mem proper.sorted isEntry)
  refine (nodeFor_shows toUppercase below held _ _ node inside).mono fun page member => all.mem_iff.mp ?_
  cases folder : buildFolders pages with
  | mk own children =>
    rw [folder] at isEntry
    rw [Folder.pages, Folder.pagesIn_eq]
    exact List.mem_append_right _ (List.mem_flatMap.mpr ⟨entry, isEntry, member⟩)

/-- Every page is in the navigation exactly once, exactly when no page lies below an index that
lends its folder a page. -/
theorem navigates_iff (given : NavPages pages) :
    Navigates toUppercase pages ↔ ∀ folder ≠ [], ¬ HiddenBelow pages folder := by
  rw [← given.lost_eq_nil_iff, ← given.once_iff toUppercase]
  refine ⟨fun navigates => navigates.once,
    fun once => ⟨once, given.shows_buildNavigation toUppercase, fun others perm => ?_⟩⟩
  rw [buildNavigation, buildNavigation, given.buildFolders_perm perm]

end NavPages

section
def pageAtSlug (slug : String) : NavSource := ⟨slug, slug, slug ++ ".md"⟩

def asIs (c : Char) : String := String.singleton c

/-- A folder with an index, and a folder without. -/
def lathes : List NavSource := ["tools/index", "tools/lathe", "wood/oak"].map pageAtSlug

theorem lathes_navigate : Navigates asIs lathes := by
  have given : NavPages lathes := ⟨by decide +kernel, by decide +kernel⟩
  have short : ∀ page ∈ lathes, (splitText '/' page.slug).length = 2 := by decide +kernel
  refine (given.navigates_iff asIs).mpr fun folder some_ hidden => ?_
  obtain ⟨page, there, rest, more, split⟩ := hidden.2.2
  have length := short page there
  have folders := List.length_pos_of_ne_nil some_
  have below := List.length_pos_of_ne_nil more
  rw [split, List.length_append, List.length_cons] at length
  omega

/-- The index of `tools` is a page and a folder. -/
def indexFolder : List NavSource := ["tools/index", "tools/index/lathe"].map pageAtSlug

theorem indexFolder_nodes :
    ((NavNode.nodesIn (buildNavigation asIs indexFolder)).map (·.slug)) = ["tools/index"] := by
  decide +kernel

/-- What is in it is in no node. -/
theorem page_below_index_lost : NavPages indexFolder ∧ ¬ Navigates asIs indexFolder := by
  refine ⟨⟨by decide +kernel, by decide +kernel⟩, fun navigates => ?_⟩
  have once := navigates.once (pageAtSlug "tools/index/lathe") (by decide +kernel)
  rw [indexFolder_nodes] at once
  revert once
  decide +kernel

end

end CoopSpaces
