import CoopSpaces.Server.RoleCycles

namespace CoopSpaces
namespace PermissionGraph
variable {Uuid : Type} [DecidableEq Uuid] {g : PermissionGraph Uuid} {roles others : List Uuid} {key : String}

open Worklist

/-- Names that do not resolve are skipped. -/
def effectivePermissionsByNames (g : PermissionGraph Uuid) (names : List String) : List String :=
  g.effectivePermissions (names.filterMap g.byName)

def hasPermissionForRoleName (g : PermissionGraph Uuid) (roleName key : String) : Bool :=
  match g.byName roleName with
  | some id => g.hasPermission [id] key
  | none => false

theorem mem_closure {role : Uuid} : role ∈ g.closure roles ↔ Reach g.inherits roles role := mem_closure_nil

theorem mem_effectivePermissions_append : key ∈ g.effectivePermissions (roles ++ others) ↔
    key ∈ g.effectivePermissions roles ∨ key ∈ g.effectivePermissions others := by
  constructor
  · intro held
    obtain ⟨role, member, through⟩ := mem_effectivePermissions_iff_exists.mp held
    rcases List.mem_append.mp member with first | second
    · exact .inl (mem_effectivePermissions_iff_exists.mpr ⟨role, first, through⟩)
    · exact .inr (mem_effectivePermissions_iff_exists.mpr ⟨role, second, through⟩)
  · rintro (held | held)
    · exact mem_effectivePermissions_of_subset (fun role => List.mem_append_left _) held
    · exact mem_effectivePermissions_of_subset (fun role => List.mem_append_right _) held

theorem mem_effectivePermissionsByNames {names : List String} : key ∈ g.effectivePermissionsByNames names ↔
    ∃ name ∈ names, ∃ role, g.byName name = some role ∧ key ∈ g.effectivePermissions [role] := by
  rw [effectivePermissionsByNames, mem_effectivePermissions_iff_exists]
  constructor
  · rintro ⟨role, member, held⟩
    obtain ⟨name, listed, resolves⟩ := List.mem_filterMap.mp member
    exact ⟨name, listed, role, resolves, held⟩
  · rintro ⟨name, listed, role, resolves, held⟩
    exact ⟨role, List.mem_filterMap.mpr ⟨name, listed, resolves⟩, held⟩

theorem hasPermissionForRoleName_iff {roleName : String} : g.hasPermissionForRoleName roleName key = true ↔
    ∃ role, g.byName roleName = some role ∧ key ∈ g.effectivePermissions [role] := by
  unfold hasPermissionForRoleName
  split
  · rename_i role resolves
    rw [hasPermission_iff, resolves]
    constructor
    · exact fun held => ⟨role, rfl, held⟩
    · rintro ⟨other, same, held⟩
      rw [Option.some.inj same]
      exact held
  · rename_i unknown
    rw [unknown]
    constructor
    · exact nofun
    · rintro ⟨role, same, -⟩
      cases same

theorem mem_effectivePermissions_of_edges {edges : List (Uuid × Uuid)} (more : ∀ edge ∈ g.inherits, edge ∈ edges)
    (held : key ∈ g.effectivePermissions roles) :
    key ∈ PermissionGraph.effectivePermissions { g with inherits := edges } roles := by
  obtain ⟨role, ⟨root, member, path⟩, own⟩ := mem_effectivePermissions.mp held
  refine mem_effectivePermissions.mpr ⟨role, ⟨root, member, ?_⟩, own⟩
  exact Relation.ReflTransGen.mono (fun a b edge => more (a, b) edge) root role path

theorem effectiveLevel_greatest (g : PermissionGraph Uuid) (roles : List Uuid) :
    (∀ role ∈ g.closure roles, g.level role = none) ∧ g.effectiveLevel roles = 0 ∨
      IsGreatest {level_ | ∃ role ∈ g.closure roles, g.level role = some level_} (g.effectiveLevel roles) := by
  have listed : ∀ x, x ∈ (g.closure roles).filterMap (fun r => g.level r) ↔
      ∃ role ∈ g.closure roles, g.level role = some x := by
    intro x
    rw [List.mem_filterMap]
  rw [RoleGraph.effectiveLevel]
  rcases largest : ((g.closure roles).filterMap fun r => g.level r).max? with _ | x
  · refine .inl ⟨fun role member => ?_, rfl⟩
    have empty := List.max?_eq_none_iff.mp largest
    exact List.filterMap_eq_nil_iff.mp empty role member
  · obtain ⟨member, above⟩ := List.max?_eq_some_iff.mp largest
    refine .inr ⟨(listed x).mp member, fun y found => ?_⟩
    exact above y ((listed y).mpr found)

theorem effectiveLevel_append (nonneg : ∀ role level_, g.level role = some level_ → 0 ≤ level_)
    (roles others : List Uuid) :
    g.effectiveLevel (roles ++ others) = max (g.effectiveLevel roles) (g.effectiveLevel others) := by
  let cached : CachedGraph Uuid := { g with levelNonneg := nonneg }
  have mono {few many : List Uuid} (more : ∀ role ∈ few, role ∈ many) :
      g.effectiveLevel few ≤ g.effectiveLevel many :=
    cached.effectiveLevel_mono more
  refine le_antisymm ?_ (max_le (mono fun role => List.mem_append_left _) (mono fun role => List.mem_append_right _))
  have least : 0 ≤ max (g.effectiveLevel roles) (g.effectiveLevel others) :=
    le_max_of_le_left (show 0 ≤ cached.effectiveLevel roles from cached.effectiveLevel_nonneg)
  refine cached.effectiveLevel_le_of_each least fun role member => ?_
  rcases List.mem_append.mp member with first | second
  · refine le_max_of_le_left (mono fun same => ?_)
    exact fun here => (List.mem_singleton.mp here) ▸ first
  · refine le_max_of_le_right (mono fun same => ?_)
    exact fun here => (List.mem_singleton.mp here) ▸ second

/-- What inheritance promises. Levels add up where none is negative. -/
structure Inheritance (g : PermissionGraph Uuid) : Prop where
  closure : ∀ roles role, role ∈ g.closure roles ↔ Reach g.inherits roles role
  permissions : ∀ roles key, key ∈ g.effectivePermissions roles ↔ ∃ role ∈ g.closure roles, (role, key) ∈ g.ownPerms
  permissionsByName : ∀ names key, key ∈ g.effectivePermissionsByNames names ↔
    ∃ name ∈ names, ∃ role, g.byName name = some role ∧ key ∈ g.effectivePermissions [role]
  permissionByName : ∀ name key, g.hasPermissionForRoleName name key = true ↔
    ∃ role, g.byName name = some role ∧ key ∈ g.effectivePermissions [role]
  permissionsMono : ∀ roles others key, (∀ role ∈ roles, role ∈ others) →
    key ∈ g.effectivePermissions roles → key ∈ g.effectivePermissions others
  permissionsUnion : ∀ roles others key, key ∈ g.effectivePermissions (roles ++ others) ↔
    key ∈ g.effectivePermissions roles ∨ key ∈ g.effectivePermissions others
  moreEdges : ∀ edges, (∀ edge ∈ g.inherits, edge ∈ edges) → ∀ roles key, key ∈ g.effectivePermissions roles →
    key ∈ PermissionGraph.effectivePermissions { g with inherits := edges } roles
  level : ∀ roles, (∀ role ∈ g.closure roles, g.level role = none) ∧ g.effectiveLevel roles = 0 ∨
    IsGreatest {level_ | ∃ role ∈ g.closure roles, g.level role = some level_} (g.effectiveLevel roles)
  levelMono : (∀ role level_, g.level role = some level_ → 0 ≤ level_) → ∀ roles others,
    (∀ role ∈ roles, role ∈ others) → g.effectiveLevel roles ≤ g.effectiveLevel others
  levelUnion : (∀ role level_, g.level role = some level_ → 0 ≤ level_) → ∀ roles others,
    g.effectiveLevel (roles ++ others) = max (g.effectiveLevel roles) (g.effectiveLevel others)
  cycle : ∀ nodes, (∀ edge ∈ g.inherits, edge.1 ∈ nodes) →
    (g.hasCycle nodes = true ↔ ∃ role, Relation.TransGen (fun a b => (a, b) ∈ g.inherits) role role)

/-- Role inheritance is reachability, for every graph of roles. -/
theorem inheritance_is_reachability (g : PermissionGraph Uuid) : g.Inheritance where
  closure _ _ := mem_closure
  permissions roles key := by
    rw [mem_effectivePermissions]
    simp only [mem_closure]
  permissionsByName _ _ := mem_effectivePermissionsByNames
  permissionByName _ _ := hasPermissionForRoleName_iff
  permissionsMono _ _ _ more := mem_effectivePermissions_of_subset more
  permissionsUnion _ _ _ := mem_effectivePermissions_append
  moreEdges _ more _ _ := mem_effectivePermissions_of_edges more
  level := effectiveLevel_greatest g
  levelMono nonneg _ _ more := by
    let cached : CachedGraph Uuid := { g with levelNonneg := nonneg }
    exact cached.effectiveLevel_mono more
  levelUnion := effectiveLevel_append
  cycle nodes sources := by
    rw [RoleGraph.hasCycle_iff sources, Acyclic]
    push Not
    rfl

end PermissionGraph

section BelowZero
def barred : HexId := .repeating 1

/-- One role, with a level below zero. -/
def belowZero : PermissionGraph HexId where
  level := .insert .empty barred (-1)
  byName := .empty
  inherits := []
  ownPerms := []

/-- With a negative level, a role more is a level less. -/
theorem negative_level_not_monotone : ¬ ∀ roles others : List HexId, (∀ role ∈ roles, role ∈ others) →
    belowZero.effectiveLevel roles ≤ belowZero.effectiveLevel others := by
  intro mono
  have fewer := mono [] [barred] nofun
  revert fewer
  decide +kernel

end BelowZero

end CoopSpaces
