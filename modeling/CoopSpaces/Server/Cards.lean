import CoopSpaces.Edge.Resources
import Mathlib.Data.List.AList

namespace CoopSpaces

inductive CardStatus
  | active
  | disabled
  | released
  deriving DecidableEq

def CardStatus.grantsAccess (status : CardStatus) : Bool := status = .active

/-- A first-class card. `code` is what the sealed column opens to; only its
blind index and its digest are ever compared. -/
structure UserCard (Uuid : Type) where
  userId : Uuid
  code : String
  codeBidx : Option (List UInt8)
  codeWireDigest : Option (List UInt8)
  status : CardStatus
  createdAt : Int
  deriving DecidableEq

/-- A value of the profile JSON: a string, an array with its string elements, or
anything else with its keys; `text` is what SQL's text operator yields for it. -/
inductive ProfileValue
  | string (s : String)
  | array (strings : List String) (text : String)
  | other (keys : List String) (text : Option String)
  deriving DecidableEq

structure User (Uuid : Type) where
  id : Uuid
  fullName : String
  isActive : Bool
  profile : Table String ProfileValue

/-- Keyed digests of a card code. The blind index is a keyed hash of a library. -/
structure CardCipher extends CardDigester where
  blindIndex : String → List UInt8

def cardsInProfile (profile : Table String ProfileValue) (field : String) : List String :=
  match profile field with
  | some (.string s) => if s = "" then [] else [s]
  | some (.array strings _) => strings.filter (· ≠ "")
  | _ => []

inductive CardResolution (Uuid : Type)
  | active (user : User Uuid) (card : Option (UserCard Uuid))
  | revoked (user : User Uuid) (card : UserCard Uuid)
  | unknown

section Resolution
variable {Uuid : Type} [DecidableEq Uuid]

/-- Whether SQL's text comparison or its containment finds a value. -/
def ProfileValue.holds (value : ProfileValue) (code : String) : Bool :=
  match value with
  | .string s => s = code
  | .array strings text => text = code || code ∈ strings
  | .other keys text => text = some code || code ∈ keys

/-- A field name is interpolated into the query, so it must be a bare identifier. -/
def bareIdentifier (field : String) : Bool :=
  field ≠ "" && field.toList.all fun c =>
    ('0' ≤ c ∧ c ≤ '9') ∨ ('A' ≤ c ∧ c ≤ 'Z') ∨ ('a' ≤ c ∧ c ≤ 'z') ∨ c = '_'

/-- Nothing for a database error; the query's first row, if any. -/
def findUserByProfileField (users : List (User Uuid)) (field code : String) : Option (Option (User Uuid)) :=
  if bareIdentifier field then some (users.find? fun u => (u.profile field).any (·.holds code)) else none

/-- The row a code's blind index finds: the live one, or the newest released one. -/
def findCard (cards : List (UserCard Uuid)) (cipher : CardCipher) (code : String) : Option (UserCard Uuid) :=
  let bidx := some (cipher.blindIndex code)
  match cards.find? fun c => c.codeBidx = bidx ∧ c.status ≠ .released with
  | some card => some card
  | none =>
    ((cards.filter fun c => c.codeBidx = bidx ∧ c.status = .released).insertionSort
      fun a b => b.createdAt ≤ a.createdAt).head?

/-- The status-aware resolver; nothing for a database error. -/
def resolveCard (users : List (User Uuid)) (cards : List (UserCard Uuid)) (field code : String)
    (cipher : Option CardCipher) : Option (CardResolution Uuid) :=
  match cipher.bind (findCard cards · code) with
  | some card =>
    (users.find? fun u => u.id = card.userId).map fun user =>
      if card.status.grantsAccess then .active user (some card) else .revoked user card
  | none =>
    (findUserByProfileField users field code).map fun found =>
      match found with
      | some user => .active user none
      | none => .unknown

end Resolution

def pushNew {α : Type} [DecidableEq α] (values : List α) (value : α) : List α :=
  if value ∈ values then values else values ++ [value]

theorem mem_foldl_pushNew {α : Type} [DecidableEq α] {values pushed : List α} {a : α} :
    a ∈ pushed.foldl pushNew values ↔ a ∈ values ∨ a ∈ pushed := by
  induction pushed generalizing values with
  | nil => simp
  | cons first rest ih =>
    rw [List.foldl_cons, ih]
    unfold pushNew
    split <;> · simp only [List.mem_append, List.mem_cons]; grind

section Digests
variable {Uuid : Type} [DecidableEq Uuid]

def pushDigest (map : AList fun _ : Uuid => List String) (entry : Uuid × String) :
    AList fun _ : Uuid => List String :=
  map.insert entry.1 (pushNew ((map.lookup entry.1).getD []) entry.2)

def legacyDigests (user : User Uuid) (field : String) (cipher : Option CardCipher) : List (List UInt8) :=
  match cipher with
  | none => []
  | some c => (cardsInProfile user.profile field).filterMap c.wireDigest

def cardDigestsByUser (cards : List (UserCard Uuid)) (users : List (User Uuid)) (field : String)
    (cipher : Option CardCipher) : AList fun _ : Uuid => List String :=
  let activeCards := cards.filter fun c => c.status = .active ∧ c.userId ∈ users.map (·.id)
  let stored := activeCards.filterMap fun c => c.codeWireDigest.map fun d => (c.userId, hexEncode d)
  let legacy := users.flatMap fun u => (legacyDigests u field cipher).map fun d => (u.id, hexEncode d)
  (stored ++ legacy).foldl pushDigest ∅

/-- A digest identifies a member: an active row of theirs stores it, or a legacy
value of their profile digests to it. -/
def Identifies (cards : List (UserCard Uuid)) (field : String) (cipher : Option CardCipher) (digest : List UInt8)
    (user : User Uuid) : Prop :=
  (∃ card ∈ cards, card.status = .active ∧ card.userId = user.id ∧ card.codeWireDigest = some digest) ∨
    digest ∈ legacyDigests user field cipher

theorem lookup_pushDigest {map : AList fun _ : Uuid => List String} {entry : Uuid × String} {user : Uuid}
    {text : String} :
    (∃ held, (pushDigest map entry).lookup user = some held ∧ text ∈ held) ↔
      entry = (user, text) ∨ ∃ held, map.lookup user = some held ∧ text ∈ held := by
  obtain ⟨owner, pushed⟩ := entry
  by_cases own : user = owner
  · subst own
    have members : text ∈ pushNew ((map.lookup user).getD []) pushed ↔
        text ∈ (map.lookup user).getD [] ∨ text = pushed := by
      simpa using @mem_foldl_pushNew String _ ((map.lookup user).getD []) [pushed] text
    simp only [pushDigest, AList.lookup_insert, Option.some.injEq, exists_eq_left', members, Prod.mk.injEq, true_and]
    rcases map.lookup user with _ | held <;> simp [eq_comm, or_comm]
  · simp [pushDigest, AList.lookup_insert_ne own, Ne.symm own]

theorem lookup_foldl_pushDigest {entries : List (Uuid × String)} {map : AList fun _ : Uuid => List String}
    {user : Uuid} {text : String} :
    (∃ held, (entries.foldl pushDigest map).lookup user = some held ∧ text ∈ held) ↔
      (user, text) ∈ entries ∨ ∃ held, map.lookup user = some held ∧ text ∈ held := by
  induction entries generalizing map with
  | nil => simp
  | cons entry rest ih =>
    rw [List.foldl_cons, ih, lookup_pushDigest, List.mem_cons]
    grind

theorem mem_cardDigestsByUser {cards : List (UserCard Uuid)} {users : List (User Uuid)} {field : String}
    {cipher : Option CardCipher} {id : Uuid} {digest : List UInt8} :
    (∃ held, (cardDigestsByUser cards users field cipher).lookup id = some held ∧ hexEncode digest ∈ held) ↔
      ∃ user ∈ users, user.id = id ∧ Identifies cards field cipher digest user := by
  simp only [cardDigestsByUser, lookup_foldl_pushDigest, AList.lookup_empty, reduceCtorEq, false_and, exists_false,
    or_false, List.mem_append, List.mem_filterMap, List.mem_filter, List.mem_flatMap, List.mem_map,
    decide_eq_true_eq, Option.map_eq_some_iff, Prod.mk.injEq]
  constructor
  · rintro (⟨card, ⟨row, active, user, listed, own⟩, stored, digested, rfl, same⟩ |
      ⟨user, listed, d, legacy, rfl, same⟩)
    · obtain rfl := hexEncode_injective same
      exact ⟨user, listed, own, .inl ⟨card, row, active, own.symm, digested⟩⟩
    · obtain rfl := hexEncode_injective same
      exact ⟨user, listed, rfl, .inr legacy⟩
  · rintro ⟨user, listed, rfl, ⟨card, row, active, own, digested⟩ | legacy⟩
    · exact .inl ⟨card, ⟨row, active, user, listed, own.symm⟩, digest, digested, own, rfl⟩
    · exact .inr ⟨user, listed, digest, legacy, rfl, rfl⟩

end Digests

/-- What issuing and the live index keep of the rows: each carries the blind
index of its code, its digest if any is its code's, and no two live rows share
an index. -/
structure Sealed {Uuid : Type} (cipher : CardCipher) (cards : List (UserCard Uuid)) : Prop where
  indexed : ∀ card ∈ cards, card.codeBidx = some (cipher.blindIndex card.code)
  digested : ∀ card ∈ cards, ∀ digest, card.codeWireDigest = some digest → cipher.wireDigest card.code = some digest
  live : ∀ card ∈ cards, ∀ other ∈ cards, card.status ≠ .released → other.status ≠ .released →
    card.codeBidx = other.codeBidx → card = other

/-- A code that resolves to a revoked card has no active row. -/
theorem Sealed.no_active_row {Uuid : Type} [DecidableEq Uuid] {cipher : CardCipher} {cards : List (UserCard Uuid)}
    (rows : Sealed cipher cards) {users : List (User Uuid)} {field code : String} {user : User Uuid}
    {revoked : UserCard Uuid}
    (resolved : resolveCard users cards field code (some cipher) = some (.revoked user revoked)) :
    ∀ card ∈ cards, card.code = code → card.status ≠ .active := by
  intro card row own active
  have shared : card.codeBidx = some (cipher.blindIndex code) := own ▸ rows.indexed card row
  have alive : card.status ≠ .released := by simp [active]
  have found : (cards.find? fun c => c.codeBidx = some (cipher.blindIndex code) ∧ c.status ≠ .released).isSome := by
    rw [List.find?_isSome]
    exact ⟨card, row, by simp [shared, alive]⟩
  obtain ⟨live, first⟩ := Option.isSome_iff_exists.mp found
  have fits := List.find?_some first
  simp only [ne_eq, decide_eq_true_eq] at fits
  have same : live = card :=
    rows.live live (List.mem_of_find?_eq_some first) card row fits.2 alive (fits.1.trans shared.symm)
  subst same
  simp only [resolveCard, findCard, Option.bind_some, first, Option.map_eq_some_iff] at resolved
  obtain ⟨owner, -, answer⟩ := resolved
  simp [CardStatus.grantsAccess, active] at answer

theorem Sealed.identifies_iff {Uuid : Type} [DecidableEq Uuid] {cipher : CardCipher} {cards : List (UserCard Uuid)}
    (rows : Sealed cipher cards) {users : List (User Uuid)} {field code : String} {digest : List UInt8}
    (made : cipher.wireDigest code = some digest)
    (distinct : ∀ card ∈ cards, cipher.wireDigest card.code = some digest → card.code = code)
    {owner : User Uuid} {revoked : UserCard Uuid}
    (resolved : resolveCard users cards field code (some cipher) = some (.revoked owner revoked)) {user : User Uuid}
    (distinctLegacy : ∀ value ∈ cardsInProfile user.profile field, cipher.wireDigest value = some digest →
      value = code) :
    Identifies cards field (some cipher) digest user ↔ code ∈ cardsInProfile user.profile field := by
  constructor
  · rintro (⟨card, row, active, -, stored⟩ | legacy)
    · have own := distinct card row (rows.digested card row digest stored)
      exact absurd active (rows.no_active_row resolved card row own)
    · obtain ⟨value, carried, digested⟩ := List.mem_filterMap.mp legacy
      exact distinctLegacy value carried digested ▸ carried
  · exact fun carried => .inr (List.mem_filterMap.mpr ⟨code, carried, made⟩)

end CoopSpaces
