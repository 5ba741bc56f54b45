import CoopSpaces.Server.Rules

namespace CoopSpaces

/-- The role graph with each role's own permissions, which the door rules do not read. -/
structure PermissionGraph (Uuid : Type) extends RoleGraph Uuid where
  ownPerms : List (Uuid × String)

/-- Roles are stored with levels that are not negative, so a graph that was loaded has none. -/
structure CachedGraph (Uuid : Type) extends PermissionGraph Uuid where
  levelNonneg : ∀ role level_, level role = some level_ → 0 ≤ level_

/-- A role's row, less what nobody computes with. -/
structure Role (Uuid : Type) where
  id : Uuid
  name : String
  isSystem : Bool
  level : Nat
  deriving DecidableEq

inductive Mark
  | grey
  | black
  deriving DecidableEq

namespace RoleGraph
variable {Uuid : Type} [DecidableEq Uuid]

/-- A depth-first walk from a role, marking; true at an edge back into the path. No path is
longer than there are roles to stand on it. -/
def dfs (g : RoleGraph Uuid) (longest : Nat) (n : Uuid) (mark : Table Uuid Mark) : Bool × Table Uuid Mark :=
  match longest with
  | 0 => (false, mark)
  | longest + 1 =>
    let walked := (Worklist.targets g.inherits n).foldl (fun (walked : Bool × Table Uuid Mark) p =>
      if walked.1 then walked
      else
        match walked.2 p with
        | some .grey => (true, walked.2)
        | some .black => (false, walked.2)
        | none => g.dfs longest p walked.2) (false, mark.insert n .grey)
    if walked.1 then walked else (false, walked.2.insert n .black)

def hasCycle (g : RoleGraph Uuid) (nodes : List Uuid) : Bool :=
  (nodes.foldl (fun (walked : Bool × Table Uuid Mark) n =>
    if walked.1 ∨ (walked.2 n).isSome then walked
    else g.dfs (nodes.length + g.inherits.length + 1) n walked.2) (false, .empty)).1

end RoleGraph

namespace PermissionGraph
variable {Uuid : Type} [DecidableEq Uuid]

def effectivePermissions (g : PermissionGraph Uuid) (roles : List Uuid) : List String :=
  (g.closure roles).flatMap fun role => (g.ownPerms.filter fun row => row.1 = role).map (·.2)

def hasPermission (g : PermissionGraph Uuid) (roles : List Uuid) (key : String) : Bool :=
  decide (key ∈ g.effectivePermissions roles)

variable {g : PermissionGraph Uuid} {roles others : List Uuid} {key : String}

theorem mem_effectivePermissions :
    key ∈ g.effectivePermissions roles ↔ ∃ role, Worklist.Reach g.inherits roles role ∧ (role, key) ∈ g.ownPerms := by
  simp only [effectivePermissions, List.mem_flatMap, RoleGraph.closure, Worklist.mem_closure_nil, List.mem_map,
    List.mem_filter, decide_eq_true_eq]
  constructor
  · rintro ⟨role, reached, ⟨owner, _⟩, ⟨row, rfl⟩, rfl⟩
    exact ⟨owner, reached, row⟩
  · rintro ⟨role, reached, row⟩
    exact ⟨role, reached, (role, key), ⟨row, rfl⟩, rfl⟩

theorem hasPermission_iff : g.hasPermission roles key = true ↔ key ∈ g.effectivePermissions roles :=
  decide_eq_true_iff

theorem mem_effectivePermissions_of_subset (more : ∀ role ∈ roles, role ∈ others)
    (held : key ∈ g.effectivePermissions roles) : key ∈ g.effectivePermissions others := by
  obtain ⟨role, ⟨root, member, path⟩, own⟩ := mem_effectivePermissions.mp held
  exact mem_effectivePermissions.mpr ⟨role, ⟨root, more root member, path⟩, own⟩

theorem mem_effectivePermissions_iff_exists :
    key ∈ g.effectivePermissions roles ↔ ∃ role ∈ roles, key ∈ g.effectivePermissions [role] := by
  constructor
  · intro held
    obtain ⟨owner, ⟨root, member, path⟩, own⟩ := mem_effectivePermissions.mp held
    exact ⟨root, member, mem_effectivePermissions.mpr ⟨owner, ⟨root, List.mem_singleton_self root, path⟩, own⟩⟩
  · rintro ⟨role, member, held⟩
    refine mem_effectivePermissions_of_subset (fun other same => ?_) held
    rwa [List.mem_singleton.mp same]

theorem hasPermission_of_subset (more : ∀ role ∈ roles, role ∈ others) (held : g.hasPermission roles key = true) :
    g.hasPermission others key = true :=
  hasPermission_iff.mpr (mem_effectivePermissions_of_subset more (hasPermission_iff.mp held))

theorem hasPermission_congr (same : ∀ role, role ∈ roles ↔ role ∈ others) :
    g.hasPermission roles key = g.hasPermission others key := by
  rw [Bool.eq_iff_iff]
  exact ⟨hasPermission_of_subset fun role => (same role).mp, hasPermission_of_subset fun role => (same role).mpr⟩

end PermissionGraph

namespace CachedGraph
variable {Uuid : Type} [DecidableEq Uuid]

theorem level_foldl {rows : List (Uuid × String × Int)} {t : Table Uuid Int} {role : Uuid} {level : Int}
    (found : rows.foldl (fun t row => t.insert row.1 row.2.2) t role = some level) :
    t role = some level ∨ ∃ row ∈ rows, row.2.2 = level := by
  induction rows generalizing t with
  | nil => exact .inl found
  | cons row rest ih =>
    rw [List.foldl_cons] at found
    rcases ih found with inTable | ⟨later, member, same⟩
    · rw [Table.insert_apply] at inTable
      by_cases here : role = row.1
      · rw [if_pos here] at inTable
        exact .inr ⟨row, List.mem_cons_self .., Option.some.inj inTable⟩
      · rw [if_neg here] at inTable
        exact .inl inTable
    · exact .inr ⟨later, List.mem_cons_of_mem _ member, same⟩

def fromRows (roleRows : List (Role Uuid)) (permRows : List (Uuid × String)) (edgeRows : List (Uuid × Uuid)) :
    CachedGraph Uuid where
  toRoleGraph := RoleGraph.fromRows (roleRows.map fun role => (role.id, role.name, (role.level : Int))) edgeRows
  ownPerms := permRows
  levelNonneg role level_ found := by
    rcases level_foldl found with inTable | ⟨row, member, rfl⟩
    · cases inTable
    · obtain ⟨stored, -, rfl⟩ := List.mem_map.mp member
      exact Int.natCast_nonneg stored.level

variable {g : CachedGraph Uuid} {roles others : List Uuid}

/-- The effective level is the greatest of what the roles reach, and nothing below zero. -/
theorem effectiveLevel_le_iff {bound : Int} (least : 0 ≤ bound) :
    g.effectiveLevel roles ≤ bound ↔
      ∀ role level_, Worklist.Reach g.inherits roles role → g.level role = some level_ → level_ ≤ bound := by
  have listed : ∀ x, x ∈ (g.closure roles).filterMap (fun r => g.level r) ↔
      ∃ role, Worklist.Reach g.inherits roles role ∧ g.level role = some x := by
    intro x
    simp only [List.mem_filterMap, RoleGraph.closure, Worklist.mem_closure_nil]
  rw [RoleGraph.effectiveLevel]
  rcases largest : ((g.closure roles).filterMap fun r => g.level r).max? with _ | x
  · have empty := List.max?_eq_none_iff.mp largest
    refine ⟨fun _ role level_ reached found => ?_, fun _ => least⟩
    have member := (listed level_).mpr ⟨role, reached, found⟩
    rw [empty] at member
    cases member
  · obtain ⟨member, above⟩ := List.max?_eq_some_iff.mp largest
    constructor
    · intro small role level_ reached found
      have below := above level_ ((listed level_).mpr ⟨role, reached, found⟩)
      exact le_trans below small
    · intro every
      obtain ⟨role, reached, found⟩ := (listed x).mp member
      exact every role x reached found

theorem effectiveLevel_nonneg : 0 ≤ g.effectiveLevel roles := by
  rw [RoleGraph.effectiveLevel]
  rcases largest : ((g.closure roles).filterMap fun r => g.level r).max? with _ | x
  · exact le_rfl
  · obtain ⟨member, -⟩ := List.max?_eq_some_iff.mp largest
    obtain ⟨role, -, found⟩ := List.mem_filterMap.mp member
    exact g.levelNonneg role x found

theorem effectiveLevel_le_of_each {bound : Int} (least : 0 ≤ bound)
    (each : ∀ role ∈ roles, g.effectiveLevel [role] ≤ bound) : g.effectiveLevel roles ≤ bound := by
  refine (effectiveLevel_le_iff least).mpr ?_
  rintro role level_ ⟨root, member, path⟩ found
  exact (effectiveLevel_le_iff least).mp (each root member) role level_ ⟨root, List.mem_singleton_self root, path⟩
    found

theorem effectiveLevel_mono (more : ∀ role ∈ roles, role ∈ others) :
    g.effectiveLevel roles ≤ g.effectiveLevel others := by
  refine (effectiveLevel_le_iff effectiveLevel_nonneg).mpr ?_
  rintro role level_ ⟨root, member, path⟩ found
  exact (effectiveLevel_le_iff effectiveLevel_nonneg).mp le_rfl role level_ ⟨root, more root member, path⟩ found

end CachedGraph

end CoopSpaces
