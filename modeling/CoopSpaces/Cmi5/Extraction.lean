import CoopSpaces.Cmi5.ContentStore

namespace CoopSpaces.Cmi5

variable {os : Os} {disk disk' : Disk} {dest : Path} {call limit total maxInflated : Nat}

/-- A file may stand there: it is none of the directories on its way, none before it is, and it is none on theirs. -/
def Placeable (placed : List EnclosedPath) (rel : EnclosedPath) : Prop :=
  rel.target ∉ rel.ways ∧ ∀ other ∈ placed, other.target ∉ rel.ways ∧ rel.target ∉ other.ways

/-- Nothing stops an entry before the limit. -/
def ZipEntry.Copies (os : Os) (call limit : Nat) (entry : ZipEntry) : Prop :=
  (∀ came message, os.copy call = some (came, message) → (entry.inflated.take limit).length ≤ came) ∧
    (entry.broken = none ∨ limit ≤ entry.inflated.length)

/-- How many bytes are taken of an entry: one more than the budget has left, at most. -/
def ZipEntry.taken (maxInflated total : Nat) (entry : ZipEntry) : Nat :=
  (entry.inflated.take (saturatingAdd (maxInflated - total) 1)).length

/-- An entry has a path inside, meets no refusal and stays in the budget. -/
structure ZipEntry.Fits (os : Os) (maxInflated call total : Nat) (placed : List EnclosedPath) (entry : ZipEntry)
    (rel : EnclosedPath) : Prop where
  enclosed : entry.enclosedName = some rel
  placeable : Placeable placed rel
  way : os.createDirAll (call + 1) = none
  opens : os.create call = none
  copies : entry.Copies os call (saturatingAdd (maxInflated - total) 1)
  budget : saturatingAdd total (entry.taken maxInflated total) ≤ maxInflated

/-- Every entry can be read, and fits. -/
def Extractable (os : Os) (maxInflated : Nat) : Nat → Nat → List EnclosedPath → List (Except String ZipEntry) → Prop
  | _, _, _, [] => True
  | _, _, _, .error _ :: _ => False
  | call, total, placed, .ok entry :: rest =>
    if entry.isDir = true then Extractable os maxInflated (call + 1) total placed rest
    else ∃ rel, entry.Fits os maxInflated call total placed rel ∧
      Extractable os maxInflated (call + 1) (saturatingAdd total (entry.taken maxInflated total)) (rel :: placed) rest

/-- How many bytes are written of all of them. -/
def copied (maxInflated : Nat) : Nat → List (Except String ZipEntry) → Nat
  | _, [] => 0
  | _, .error _ :: _ => 0
  | total, .ok entry :: rest =>
    if entry.isDir = true then copied maxInflated total rest
    else entry.taken maxInflated total + copied maxInflated (saturatingAdd total (entry.taken maxInflated total)) rest

/-- The destination with the files placed in it so far, the directories on these ways, and nothing else. -/
structure Extracted (dest : Path) (placed : List Path) (ways : List (List Path)) (disk : Disk) : Prop where
  way : ∀ q, q <+: dest → disk.entries q = some .dir
  files : ∀ r, disk.isFile (dest ++ r) = true ↔ r ∈ placed
  dirs : ∀ r, disk.entries (dest ++ r) = some .dir ↔ r = [] ∨ ∃ way ∈ ways, r ∈ way

section Walks
variable {steps before : List PathStep} {q : Path}

theorem walk_append (start : Path) (first rest : List PathStep) :
    walk start (first ++ rest) = walk (walk start first) rest :=
  List.foldl_append

theorem walk_normal (start names : Path) : walk start (names.map .normal) = start ++ names := by
  induction names generalizing start with
  | nil => exact (List.append_nil start).symm
  | cons name rest ih => exact (ih (start ++ [name])).trans (List.append_assoc start [name] rest)

/-- Steps that never lead out lead below where they begin. -/
theorem walk_inside {here : Path} (inside : staysInside here.length steps = true) :
    walk (dest ++ here) steps = dest ++ walk here steps := by
  induction steps generalizing here with
  | nil => rfl
  | cons step rest ih =>
    cases step with
    | normal name =>
      have deeper : staysInside (here ++ [name]).length rest = true := by
        rw [List.length_append]
        exact inside
      exact (congrArg (walk · rest) (List.append_assoc dest here [name])).trans (ih deeper)
    | parentDir =>
      rcases List.eq_nil_or_concat here with rfl | ⟨above, name, rfl⟩
      · cases inside
      · rw [List.concat_eq_append] at inside ⊢
        rw [List.length_append] at inside
        show walk (dest ++ (above ++ [name])).dropLast rest = dest ++ walk (above ++ [name]).dropLast rest
        rw [← List.append_assoc, List.dropLast_concat, List.dropLast_concat]
        exact ih inside

theorem staysInside_of_front {depth : Nat} (inside : staysInside depth steps = true) (on : before <+: steps) :
    staysInside depth before = true := by
  obtain ⟨rest, rfl⟩ := on
  induction before generalizing depth with
  | nil => cases depth <;> rfl
  | cons step more ih =>
    cases step with
    | normal name => exact ih inside
    | parentDir =>
      cases depth with
      | zero => cases inside
      | succ depth => exact ih inside

theorem mem_through : q ∈ through steps ↔ ∃ before, before <+: steps ∧ walk [] before = q := by
  simp only [through, List.mem_map, List.mem_inits]

theorem mem_through_normal : q ∈ through (dest.map .normal) ↔ q <+: dest := by
  rw [mem_through]
  constructor
  · rintro ⟨_, on, rfl⟩
    obtain ⟨names, below, rfl⟩ := List.prefix_map_iff.mp on
    rw [walk_normal]
    exact below
  · exact fun below => ⟨q.map .normal, below.map _, walk_normal [] q⟩

/-- Steps that go on from a directory and never out of it lead through what is above it, and places below it. -/
theorem mem_through_append (inside : staysInside 0 steps = true) :
    q ∈ through (dest.map .normal ++ steps) ↔ q <+: dest ∨ ∃ r ∈ through steps, q = dest ++ r := by
  have onward : ∀ before, before <+: steps → walk [] (dest.map .normal ++ before) = dest ++ walk [] before := by
    intro before on
    rw [walk_append, walk_normal, List.nil_append]
    exact (congrArg (walk · before) (List.append_nil dest)).symm.trans
      (@walk_inside dest before [] (staysInside_of_front inside on))
  rw [← mem_through_normal, mem_through, mem_through]
  constructor
  · rintro ⟨before, on, rfl⟩
    rcases List.prefix_or_prefix_of_prefix on (List.prefix_append (dest.map .normal) steps) with above | ⟨rest, rfl⟩
    · exact .inl ⟨before, above, rfl⟩
    · have below := (List.prefix_append_right_inj _).mp on
      exact .inr ⟨_, mem_through.mpr ⟨rest, below, rfl⟩, onward rest below⟩
  · rintro (⟨before, above, rfl⟩ | ⟨_, there, rfl⟩)
    · exact ⟨before, above.trans (List.prefix_append _ _), rfl⟩
    · obtain ⟨before, on, rfl⟩ := mem_through.mp there
      exact ⟨dest.map .normal ++ before, (List.prefix_append_right_inj _).mpr on, onward before on⟩

theorem nil_mem_through : ([] : Path) ∈ through steps := mem_through.mpr ⟨[], List.nil_prefix, rfl⟩

theorem walk_enclosed (dest : Path) (rel : EnclosedPath) :
    walk [] (dest.map .normal ++ rel.steps) = dest ++ rel.target := by
  rw [walk_append, walk_normal, List.nil_append]
  exact (congrArg (walk · rel.steps) (List.append_nil dest)).symm.trans (@walk_inside dest rel.steps [] rel.inside)

end Walks

variable {rel : Path} {placed : List Path} {ways : List (List Path)} {steps : List PathStep}

theorem not_isFile_of_dir {q : Path} (dir : disk.entries q = some .dir) : disk.isFile q = false := by
  rw [Disk.isFile, dir]

theorem Extracted.clash_iff (extracted : Extracted dest placed ways disk) (inside : staysInside 0 steps = true) :
    (through (dest.map .normal ++ steps)).any disk.isFile = true ↔ ∃ other ∈ placed, other ∈ through steps := by
  rw [List.any_eq_true]
  constructor
  · rintro ⟨q, on, file⟩
    rcases (mem_through_append inside).mp on with before | ⟨r, below, rfl⟩
    · rw [not_isFile_of_dir (extracted.way q before)] at file
      cases file
    · exact ⟨r, (extracted.files r).mp file, below⟩
  · rintro ⟨other, there, below⟩
    exact ⟨dest ++ other, (mem_through_append inside).mpr (.inr ⟨other, below, rfl⟩),
      (extracted.files other).mpr there⟩

theorem mem_missing {on : List Path} {q : Path} : q ∈ disk.missing on ↔ q ∈ on ∧ disk.entries q = none := by
  rw [Disk.missing, List.mem_filter, Option.isNone_iff_eq_none]

theorem mem_missing_inits {path q : Path} : q ∈ disk.missing path.inits ↔ q <+: path ∧ disk.entries q = none := by
  rw [mem_missing, List.mem_inits]

theorem withDirs_missing_entries {way : List Path} {q : Path} (free : way.any disk.isFile = false) (on : q ∈ way) :
    (disk.withDirs (disk.missing way)).entries q = some .dir := by
  show (if q ∈ disk.missing way then some .dir else disk.entries q) = some .dir
  split
  · rfl
  next there =>
    have noFile := List.any_eq_false.mp free q on
    rw [mem_missing] at there
    rcases here : disk.entries q with _ | _ | content
    · exact absurd ⟨on, here⟩ there
    · rfl
    · rw [Disk.isFile, here] at noFile
      exact absurd rfl noFile

theorem withDirs_missing_off {way : List Path} {q : Path} (off : q ∉ way) :
    (disk.withDirs (disk.missing way)).entries q = disk.entries q :=
  if_neg fun there => off (mem_missing.mp there).1

theorem isFile_withDirs_missing {way : List Path} {q : Path} (free : way.any disk.isFile = false) :
    (disk.withDirs (disk.missing way)).isFile q = disk.isFile q := by
  by_cases on : q ∈ way
  · rw [not_isFile_of_dir (withDirs_missing_entries free on)]
    exact (Bool.not_eq_true _ ▸ List.any_eq_false.mp free q on).symm
  · rw [Disk.isFile, withDirs_missing_off on, Disk.isFile]

/-- The directories on the way to a file are made. -/
theorem Extracted.withDirs (extracted : Extracted dest placed ways disk) (inside : staysInside 0 steps = true)
    (free : ∀ other ∈ placed, other ∉ through steps) : Extracted dest placed (through steps :: ways)
      (disk.withDirs (disk.missing (through (dest.map .normal ++ steps)))) := by
  have noFile : (through (dest.map .normal ++ steps)).any disk.isFile = false := by
    rw [← Bool.not_eq_true, extracted.clash_iff inside]
    rintro ⟨other, there, below⟩
    exact free other there below
  refine ⟨fun q before => ?_, fun r => ?_, fun r => ?_⟩
  · exact withDirs_missing_entries noFile ((mem_through_append inside).mpr (.inl before))
  · rw [isFile_withDirs_missing noFile, extracted.files]
  · by_cases on : r ∈ through steps
    · have made := withDirs_missing_entries noFile ((mem_through_append inside).mpr (.inr ⟨r, on, rfl⟩))
      exact ⟨fun _ => .inr ⟨_, List.mem_cons_self, on⟩, fun _ => made⟩
    · have off : dest ++ r ∉ through (dest.map .normal ++ steps) := by
        rw [mem_through_append inside]
        rintro (above | ⟨other, there, same⟩)
        · have lengths := above.length_le
          rw [List.length_append] at lengths
          exact on (List.length_eq_zero_iff.mp (by omega : r.length = 0) ▸ nil_mem_through)
        · exact on (List.append_cancel_left same ▸ there)
      rw [withDirs_missing_off off, extracted.dirs, List.exists_mem_cons_iff, or_iff_right on]

/-- A file is placed where there is no directory. -/
theorem Extracted.set (extracted : Extracted dest placed ways disk) {content : List UInt8} (inside : rel ≠ [])
    (free : ∀ way ∈ ways, rel ∉ way) : Extracted dest (rel :: placed) ways (disk.set (dest ++ rel) content) := by
  have entries : ∀ r, (disk.set (dest ++ rel) content).entries (dest ++ r) =
      if r = rel then some (.file content) else disk.entries (dest ++ r) := by
    intro r
    simp only [Disk.set, List.append_cancel_left_eq]
  refine ⟨fun q before => ?_, fun r => ?_, fun r => ?_⟩
  · have other : q ≠ dest ++ rel := by
      rintro rfl
      have lengths := before.length_le
      rw [List.length_append] at lengths
      exact inside (List.length_eq_zero_iff.mp (by omega))
    show (if q = dest ++ rel then _ else _) = _
    rw [if_neg other, extracted.way q before]
  · rw [Disk.isFile, entries, List.mem_cons]
    by_cases here : r = rel
    · rw [if_pos here]
      exact ⟨fun _ => .inl here, fun _ => rfl⟩
    · rw [if_neg here, or_iff_right here]
      exact extracted.files r
  · rw [entries]
    by_cases here : r = rel
    · rw [if_pos here, here]
      refine ⟨nofun, ?_⟩
      rintro (none | ⟨way, there, below⟩)
      · exact absurd none inside
      · exact absurd below (free way there)
    · rw [if_neg here]
      exact extracted.dirs r

/-- What is outside the destination stays as it is, and the destination a directory. -/
structure Disk.Keeps (dest : Path) (disk disk' : Disk) : Prop where
  outside : ∀ q, ¬ dest <+: q → disk'.entries q = disk.entries q
  dir : disk.entries dest = some .dir → disk'.entries dest = some .dir

theorem Disk.Keeps.refl (dest : Path) (disk : Disk) : disk.Keeps dest disk := ⟨fun _ _ => rfl, id⟩

theorem Disk.Keeps.trans {disk'' : Disk} (first : disk.Keeps dest disk') (second : disk'.Keeps dest disk'') :
    disk.Keeps dest disk'' :=
  ⟨fun q off => (second.outside q off).trans (first.outside q off), fun dir => second.dir (first.dir dir)⟩

theorem keeps_withDirs {dirs : List Path} (below : ∀ p ∈ dirs, dest <+: p) :
    disk.Keeps dest (disk.withDirs dirs) := by
  refine ⟨fun q off => if_neg fun there => off (below q there), fun dir => ?_⟩
  show (if dest ∈ dirs then some .dir else disk.entries dest) = some .dir
  split
  · rfl
  · exact dir

theorem keeps_set {content : List UInt8} (inside : rel ≠ []) : disk.Keeps dest (disk.set (dest ++ rel) content) := by
  refine ⟨fun q off => if_neg ?_, fun dir => (if_neg fun same => inside ?_).trans dir⟩
  · rintro rfl
    exact off (List.prefix_append dest rel)
  · exact List.self_eq_append_right.mp same

theorem set_set {path : Path} (first second : List UInt8) :
    (disk.set path first).set path second = disk.set path second := by
  unfold Disk.set
  congr 1
  funext q
  dsimp only
  split <;> rfl

/-- A copy writes what it takes, and ends well if nothing stops it. -/
theorem copy_spec (os : Os) (call limit : Nat) (path : Path) (entry : ZipEntry) (disk : Disk) :
    (entry.Copies os call limit ∧ entry.copy os call limit path disk =
        (disk.fill path (entry.inflated.take limit), .ok (entry.inflated.take limit).length)) ∨
      (¬ entry.Copies os call limit ∧
        ∃ bytes message, entry.copy os call limit path disk = (disk.fill path bytes, .error message)) := by
  have ends : (∀ came message, os.copy call = some (came, message) → (entry.inflated.take limit).length ≤ came) →
      entry.copy os call limit path disk = entry.fill limit path disk := by
    intro comes
    unfold ZipEntry.copy
    rcases refusal : os.copy call with _ | ⟨came, message⟩
    · rfl
    · exact if_neg (Nat.not_lt.mpr (comes came message refusal))
  by_cases comes : ∀ came message, os.copy call = some (came, message) → (entry.inflated.take limit).length ≤ came
  · rw [ends comes]
    unfold ZipEntry.fill
    rcases broken : entry.broken with _ | message
    · exact .inl ⟨⟨comes, .inl broken⟩, rfl⟩
    · by_cases short : entry.inflated.length < limit
      · refine .inr ⟨fun copies => ?_, entry.inflated.take limit, message, if_pos short⟩
        rcases copies.2 with whole | full
        · rw [broken] at whole
          cases whole
        · omega
      · exact .inl ⟨⟨comes, .inr (Nat.not_lt.mp short)⟩, if_neg short⟩
  · refine .inr ⟨fun copies => comes copies.1, ?_⟩
    unfold ZipEntry.copy
    rcases refusal : os.copy call with _ | ⟨came, message⟩
    · exact absurd (fun came message same => by rw [refusal] at same; cases same) comes
    · by_cases short : came < (entry.inflated.take limit).length
      · exact ⟨_, message, if_pos short⟩
      · refine absurd (fun came' message' same => ?_) comes
        rw [refusal] at same
        cases same
        exact Nat.not_lt.mp short

/-- Directories under the destination are made, or the call fails, and nothing else changes. -/
theorem createDirAll_spec (os : Os) (call : Nat) (extracted : Extracted dest placed ways disk)
    (inside : staysInside 0 steps = true) :
    (os.createDirAll call = none ∧ (∀ other ∈ placed, other ∉ through steps) ∧
      ∃ disk', disk.createDirAll os call (through (dest.map .normal ++ steps)) = (disk', .ok ()) ∧
        disk.Keeps dest disk' ∧ disk'.written = disk.written ∧ Extracted dest placed (through steps :: ways) disk') ∨
      (¬ (os.createDirAll call = none ∧ ∀ other ∈ placed, other ∉ through steps) ∧
        ∃ disk' message, disk.createDirAll os call (through (dest.map .normal ++ steps)) = (disk', .error message) ∧
          disk.Keeps dest disk') := by
  have below : ∀ q ∈ disk.missing (through (dest.map .normal ++ steps)), dest <+: q := by
    intro q there
    obtain ⟨on, none⟩ := mem_missing.mp there
    rcases (mem_through_append inside).mp on with before | ⟨r, -, rfl⟩
    · rw [extracted.way q before] at none
      cases none
    · exact List.prefix_append dest r
  unfold Disk.createDirAll
  by_cases clash : (through (dest.map .normal ++ steps)).any disk.isFile = true
  · obtain ⟨other, there, on⟩ := (extracted.clash_iff inside).mp clash
    exact .inr ⟨fun free => free.2 other there on, disk, os.notADirectory, if_pos clash, .refl dest disk⟩
  have free : ∀ other ∈ placed, other ∉ through steps :=
    fun other there on => clash ((extracted.clash_iff inside).mpr ⟨other, there, on⟩)
  rw [if_neg clash]
  rcases os.createDirAll call with _ | ⟨made, message⟩
  · exact .inl ⟨rfl, free, _, rfl, keeps_withDirs below, rfl, extracted.withDirs inside free⟩
  · exact .inr ⟨nofun, _, message, rfl, keeps_withDirs fun q there => below q (List.mem_of_mem_take there)⟩

theorem create_spec (os : Os) (call : Nat) (extracted : Extracted dest placed ways disk) (rel : Path) :
    (os.create call = none ∧ rel ≠ [] ∧ (∀ way ∈ ways, rel ∉ way) ∧
      disk.create os call (dest ++ rel) = (disk.set (dest ++ rel) [], .ok ())) ∨
      (¬ (os.create call = none ∧ rel ≠ [] ∧ ∀ way ∈ ways, rel ∉ way) ∧
        ∃ message, disk.create os call (dest ++ rel) = (disk, .error message)) := by
  unfold Disk.create
  by_cases dir : disk.entries (dest ++ rel) = some .dir
  · refine .inr ⟨?_, os.isADirectory, if_pos dir⟩
    rintro ⟨_, inside, free⟩
    rcases (extracted.dirs rel).mp dir with none | ⟨way, there, below⟩
    · exact inside none
    · exact free way there below
  have inside : rel ≠ [] := fun none => dir ((extracted.dirs rel).mpr (.inl none))
  have free : ∀ way ∈ ways, rel ∉ way :=
    fun way there below => dir ((extracted.dirs rel).mpr (.inr ⟨way, there, below⟩))
  rw [if_neg dir]
  rcases os.create call with _ | message
  · exact .inl ⟨rfl, inside, free, rfl⟩
  · exact .inr ⟨nofun, message, rfl⟩

theorem withDirs_nil : disk.withDirs [] = disk := by
  unfold Disk.withDirs
  simp

/-- An entry without a name of its own would be the destination, which is a directory. -/
theorem create_dest (os : Os) (call : Nat) (extracted : Extracted dest placed ways disk) :
    ∃ answer, disk.createDirAll os (call + 1) (through (dest.map .normal).dropLast) = (disk, answer) ∧
      disk.create os call dest = (disk, .error os.isADirectory) := by
  have dirs : ∀ q ∈ through (dest.map .normal).dropLast, disk.entries q = some .dir := by
    intro q on
    rw [← List.map_dropLast, mem_through_normal] at on
    exact extracted.way q (on.trans (List.dropLast_prefix dest))
  have missing : disk.missing (through (dest.map .normal).dropLast) = [] := by
    refine List.eq_nil_iff_forall_not_mem.mpr fun q there => ?_
    obtain ⟨on, none⟩ := mem_missing.mp there
    rw [dirs q on] at none
    cases none
  have noFile : ¬ (through (dest.map .normal).dropLast).any disk.isFile = true := by
    rw [List.any_eq_true]
    rintro ⟨q, on, file⟩
    rw [not_isFile_of_dir (dirs q on)] at file
    cases file
  have refused : disk.create os call dest = (disk, .error os.isADirectory) :=
    if_pos (extracted.way dest (List.prefix_refl dest))
  unfold Disk.createDirAll
  rw [if_neg noFile, missing]
  rcases os.createDirAll (call + 1) with _ | ⟨made, message⟩
  · exact ⟨.ok (), by rw [withDirs_nil], refused⟩
  · refine ⟨.error message, ?_, refused⟩
    dsimp only
    rw [List.take_nil, withDirs_nil]

theorem Extracted.fill (extracted : Extracted dest placed ways disk) {bytes : List UInt8} (inside : rel ≠ [])
    (free : ∀ way ∈ ways, rel ∉ way) :
    Extracted dest (rel :: placed) ways ((disk.set (dest ++ rel) []).fill (dest ++ rel) bytes) := by
  have set : Extracted dest (rel :: placed) ways (disk.set (dest ++ rel) bytes) := extracted.set inside free
  rw [← set_set []] at set
  exact ⟨set.way, set.files, set.dirs⟩

/-- An entry is written under the destination if it fits, and fails otherwise. -/
theorem extract_spec {Float : Type} (os : Os) (maxInflated call total : Nat) {placed : List EnclosedPath}
    (extracted : Extracted dest (placed.map (·.target)) (placed.map (·.ways)) disk) (entry : ZipEntry) :
    (∃ rel, entry.Fits os maxInflated call total placed rel ∧ ∃ disk',
        (entry.extract os dest maxInflated call total disk : _ × Except (Cmi5Error Float) Nat) =
          (disk', .ok (saturatingAdd total (entry.taken maxInflated total))) ∧
        disk.Keeps dest disk' ∧ disk'.written = disk.written + entry.taken maxInflated total ∧
          Extracted dest ((rel :: placed).map (·.target)) ((rel :: placed).map (·.ways)) disk') ∨
      ((∀ rel, ¬ entry.Fits os maxInflated call total placed rel) ∧ ∃ disk' error,
        (entry.extract os dest maxInflated call total disk : _ × Except (Cmi5Error Float) Nat) =
          (disk', .error error) ∧
          disk.Keeps dest disk') := by
  unfold ZipEntry.extract
  rcases enclosed : entry.enclosedName with _ | rel
  · refine .inr ⟨fun rel fits => ?_, disk, _, rfl, .refl dest disk⟩
    rw [fits.enclosed] at enclosed
    cases enclosed
  have same : ∀ {rel'}, entry.Fits os maxInflated call total placed rel' → rel' = rel := by
    intro rel' fits
    exact Option.some.inj (fits.enclosed.symm.trans enclosed)
  dsimp only
  rw [walk_enclosed]
  by_cases none_ : rel.steps = []
  · obtain ⟨answer, made, refused⟩ := create_dest os call extracted
    refine .inr ⟨fun rel' fits => fits.placeable.1 (same fits ▸ ?_), disk, ?_⟩
    · rw [EnclosedPath.target, EnclosedPath.ways, none_]
      exact nil_mem_through
    rw [EnclosedPath.target, none_, List.append_nil, made]
    rcases answer with message | _
    · exact ⟨_, rfl, .refl dest disk⟩
    · dsimp only
      rw [show dest ++ walk [] [] = dest from List.append_nil dest, refused]
      exact ⟨_, rfl, .refl dest disk⟩
  have inner := staysInside_of_front rel.inside (List.dropLast_prefix rel.steps)
  rw [List.dropLast_append_of_ne_nil none_]
  rcases createDirAll_spec os (call + 1) extracted inner
    with ⟨way, free, disk₁, made, keeps, written, extracted₁⟩ |
    ⟨refused, disk₁, message, failed, keeps⟩
  swap
  · rw [failed]
    refine .inr ⟨fun rel' fits => refused ?_, disk₁, _, rfl, keeps⟩
    obtain rfl := same fits
    refine ⟨fits.way, fun _ there => ?_⟩
    obtain ⟨other, listed, rfl⟩ := List.mem_map.mp there
    exact (fits.placeable.2 other listed).1
  rw [made]
  dsimp only
  rcases create_spec os call extracted₁ rel.target with ⟨opens, inside, clear, opened⟩ | ⟨refused, message, failed⟩
  swap
  · rw [failed]
    refine .inr ⟨fun rel' fits => refused ?_, disk₁, _, rfl, keeps⟩
    obtain rfl := same fits
    refine ⟨fits.opens, fun top => fits.placeable.1 (top ▸ nil_mem_through), fun way there below => ?_⟩
    rcases List.mem_cons.mp there with rfl | there
    · exact fits.placeable.1 below
    · obtain ⟨other, placed, rfl⟩ := List.mem_map.mp there
      exact (fits.placeable.2 other placed).2 below
  have placeable : Placeable placed rel := by
    refine ⟨clear _ List.mem_cons_self, fun other there => ⟨free _ (List.mem_map_of_mem there), ?_⟩⟩
    exact clear other.ways (List.mem_cons_of_mem _ (List.mem_map_of_mem there))
  have filled : ∀ bytes, disk.Keeps dest ((disk₁.set (dest ++ rel.target) []).fill (dest ++ rel.target) bytes) := by
    intro bytes
    have set : disk₁.Keeps dest ((disk₁.set (dest ++ rel.target) []).set (dest ++ rel.target) bytes) :=
      (keeps_set inside).trans (keeps_set inside)
    exact keeps.trans ⟨set.outside, set.dir⟩
  rw [opened]
  dsimp only
  rcases copy_spec os call (saturatingAdd (maxInflated - total) 1) (dest ++ rel.target) entry
    (disk₁.set (dest ++ rel.target) []) with
    ⟨copies, copied⟩ | ⟨stopped, bytes, message, failed⟩
  swap
  · rw [failed]
    exact .inr ⟨fun rel' fits => stopped fits.copies, _, _, rfl, filled bytes⟩
  rw [copied]
  dsimp only
  by_cases exceeds : maxInflated < saturatingAdd total (entry.taken maxInflated total)
  · exact .inr ⟨fun rel' fits => Nat.not_le.mpr exceeds fits.budget, _, _, if_pos exceeds, filled _⟩
  · refine .inl ⟨rel, ⟨enclosed, placeable, way, opens, copies, Nat.not_lt.mp exceeds⟩, _, if_neg exceeds,
      filled _, ?_, ?_⟩
    · show disk₁.written + _ = _
      rw [written]
      rfl
    · exact extracted₁.fill inside clear

theorem extractEntries_spec {Float : Type} (os : Os) (maxInflated call total : Nat) {placed : List EnclosedPath}
    (extracted : Extracted dest (placed.map (·.target)) (placed.map (·.ways)) disk)
    (entries : List (Except String ZipEntry)) :
    (Extractable os maxInflated call total placed entries ∧ ∃ disk',
        (extractEntries os dest maxInflated call total entries disk : _ × Except (Cmi5Error Float) Unit) =
          (disk', .ok ()) ∧ disk.Keeps dest disk' ∧ disk'.written = disk.written + copied maxInflated total entries) ∨
      (¬ Extractable os maxInflated call total placed entries ∧ ∃ disk' error,
        (extractEntries os dest maxInflated call total entries disk : _ × Except (Cmi5Error Float) Unit) =
          (disk', .error error) ∧
          disk.Keeps dest disk') := by
  induction entries generalizing call total placed disk with
  | nil => exact .inl ⟨trivial, disk, rfl, .refl dest disk, rfl⟩
  | cons entry rest ih =>
    rcases entry with message | entry
    · exact .inr ⟨id, disk, _, rfl, .refl dest disk⟩
    by_cases isDir : entry.isDir = true
    · rw [Extractable, if_pos isDir, extractEntries, if_pos isDir, copied, if_pos isDir]
      exact ih (call + 1) total extracted
    rw [Extractable, if_neg isDir, extractEntries, if_neg isDir, copied, if_neg isDir]
    rcases extract_spec os maxInflated call total extracted entry
      with ⟨rel, fits, disk₁, first, keeps, written, extracted₁⟩ |
      ⟨unfit, disk₁, error, failed, keeps⟩
    · rw [first]
      rcases ih (call + 1) (saturatingAdd total (entry.taken maxInflated total)) extracted₁ with
        ⟨extractable, disk₂, done, keeps₂, written₂⟩ | ⟨stopped, disk₂, error, failed, keeps₂⟩
      · refine .inl ⟨⟨rel, fits, extractable⟩, disk₂, done, keeps.trans keeps₂, ?_⟩
        rw [written₂, written, Nat.add_assoc]
      · refine .inr ⟨?_, disk₂, error, failed, keeps.trans keeps₂⟩
        rintro ⟨rel', fits', extractable⟩
        obtain rfl : rel = rel' := Option.some.inj (fits.enclosed.symm.trans fits'.enclosed)
        exact stopped extractable
    · rw [failed]
      refine .inr ⟨?_, disk₁, error, rfl, keeps⟩
      rintro ⟨rel, fits, _⟩
      exact unfit rel fits

/-- The destination may be made, and with it what is missing on the way. -/
def Disk.Makeable (os : Os) (disk : Disk) (dest : Path) : Prop :=
  dest.inits.any disk.isFile = false ∧ os.createDirAll 0 = none

/-- Nothing is there yet, at the destination or below. -/
def Disk.Free (disk : Disk) (dest : Path) : Prop := ∀ r, disk.entries (dest ++ r) = none

theorem Extracted.start (free : disk.Free dest) (noFile : dest.inits.any disk.isFile = false) :
    Extracted dest [] [] (disk.withDirs (disk.missing dest.inits)) := by
  refine ⟨fun q on => withDirs_missing_entries noFile ((List.mem_inits _ _).mpr on), fun r => ?_, fun r => ?_⟩
  · rw [isFile_withDirs_missing noFile, Disk.isFile, free r]
    simp
  · by_cases here : r = []
    · rw [here, List.append_nil]
      exact ⟨fun _ => .inl rfl,
        fun _ => withDirs_missing_entries noFile ((List.mem_inits _ _).mpr (List.prefix_refl dest))⟩
    · have off : dest ++ r ∉ dest.inits := by
        intro below
        have lengths := ((List.mem_inits _ _).mp below).length_le
        rw [List.length_append] at lengths
        exact here (List.length_eq_zero_iff.mp (by omega))
      rw [withDirs_missing_off off, free r]
      simp [here]

end CoopSpaces.Cmi5
