import CoopSpaces.Edge.Digest

namespace CoopSpaces

/-- The hexadecimal digest that a digester makes of a card, if it makes one. -/
def CardDigester.digestOf (digester : CardDigester) (card : String) : Option String :=
  (digester.wireDigest card).map hexEncode

namespace ResourceCache
variable {Uuid Amps : Type} [DecidableEq Uuid] [IdText Uuid] {c : ResourceCache Uuid Amps} {digester : CardDigester}
    {name card : String} {now : Int}

/-- The token a card is decided by. -/
def tokenOf (c : ResourceCache Uuid Amps) (card : String) : String := (c.allowList.wireDigestHex card).getD ""

/-- The resource itself is locked out: the last snapshot lists its id, or has it on a circuit that has
tripped here. -/
def LockedOut (c : ResourceCache Uuid Amps) (e : Entry Uuid) : Prop :=
  ∃ snapshot ∈ c.power.snapshot, IdText.toText e.id ∈ snapshot.lockedToolIds ∨
    ∃ tool ∈ snapshot.tools, tool.id = IdText.toText e.id ∧ ∃ circuit ∈ tool.circuitId, circuit ∈ c.power.localTripped

/-- The deny list of the entry has the digest that the site's digester makes of the card. -/
def DeniesCard (digester : CardDigester) (e : Entry Uuid) (card : String) : Prop :=
  ∃ digest ∈ digester.digestOf card, digest ∈ e.deny

/-- What is decided of a card at a name, whose resource is the entry that the name finds: refusals before
anything that would let the card in, and a member let in by a record for that very entry. -/
structure RefusesFirst (digester : CardDigester) (c : ResourceCache Uuid Amps) (name card : String) (now : Int) :
    Prop where
  lockedOut : ∀ e, c.policy.find name = some e → c.LockedOut e → (c.decide name card now).isAllow = false
  disabled : ∀ e, c.policy.find name = some e → e.enabled = false → (c.decide name card now).isAllow = false
  denied : ∀ e, c.policy.find name = some e → DeniesCard digester e card → (c.decide name card now).isAllow = false
  online : ∀ e, c.policy.find name = some e → e.requiresOnline = true → c.power.isLocked name = false →
    e.enabled = true → c.tokenOf card ∉ e.deny → ¬ c.HoldLive name now → c.tokenOf card ∉ e.allow →
      c.decide name card now = .askServer
  member : (c.decide name card now).isAllow = true → ¬ c.HoldLive name now →
    ∃ e, c.policy.find name = some e ∧ (c.tokenOf card ∈ e.allow ∨ e.requiresOnline = false ∧
      ∃ m ∈ c.policy.members, m.digest = c.tokenOf card ∧ m.isActive = true ∧ e.id ∈ m.authorized ∧
        (e.status = "" ∨ e.status = "idle"))

/-- What is looked at shows a refusal: the name is locked, or the entry denies the card's token. -/
def ShowsRefusal (c : ResourceCache Uuid Amps) (name card : String) (e : Entry Uuid) : Prop :=
  c.power.isLocked name = true ∨ c.tokenOf card ∈ e.deny

/-- Nothing but a refusal keeps the token out: the entry is held open, or lists it, or an active member
authorized for the entry carries it. -/
def LetsIn (c : ResourceCache Uuid Amps) (name token : String) (now : Int) (e : Entry Uuid) : Prop :=
  c.HoldLive name now ∨ c.TokenAdmits e token

theorem decide_askServer {e : Entry Uuid} (found : c.policy.find name = some e) (online : e.requiresOnline = true)
    (unlocked : c.power.isLocked name = false) (enabled : e.enabled = true) (undenied : c.tokenOf card ∉ e.deny)
    (idle : ¬ c.HoldLive name now) (unlisted : c.tokenOf card ∉ e.allow) : c.decide name card now = .askServer := by
  have passed : (e.holdUntil.any fun until_ => Decidable.decide (now < until_)) = false := by
    rw [Bool.eq_false_iff]
    intro live
    obtain ⟨until_, held, ahead⟩ := (Option.any_eq_true _ _).mp live
    exact idle ⟨e, until_, found, held, of_decide_eq_true ahead⟩
  unfold tokenOf at undenied unlisted
  simp [decide, found, unlocked, enabled, undenied, passed, unlisted, online]

theorem decide_refuses_of_disabled {e : Entry Uuid} (found : c.policy.find name = some e) (off : e.enabled = false) :
    (c.decide name card now).isAllow = false := by
  rw [Bool.eq_false_iff]
  intro allowed
  obtain ⟨-, e', found', enabled, -⟩ := decide_isAllow.mp allowed
  obtain rfl := Option.some.inj (found.symm.trans found')
  rw [off] at enabled
  cases enabled

theorem member_of_decide (allowed : (c.decide name card now).isAllow = true) (idle : ¬ c.HoldLive name now) :
    ∃ e, c.policy.find name = some e ∧ (c.tokenOf card ∈ e.allow ∨ e.requiresOnline = false ∧
      ∃ m ∈ c.policy.members, m.digest = c.tokenOf card ∧ m.isActive = true ∧ e.id ∈ m.authorized ∧
        (e.status = "" ∨ e.status = "idle")) := by
  obtain ⟨-, e, found, -, -, live | listed | ⟨offline, m, here, active, authorized, status⟩⟩ :=
    decide_isAllow.mp allowed
  · exact absurd live idle
  · exact ⟨e, found, .inl listed⟩
  · have equal := List.find?_some here
    have same := constantTimeStrEq_iff.mp equal
    exact ⟨e, found, .inr ⟨offline, m, List.mem_of_find?_eq_some here, same, active, authorized, status⟩⟩

theorem decide_refuses_iff {e : Entry Uuid} (found : c.policy.find name = some e) (enabled : e.enabled = true)
    (admits : c.LetsIn name (c.tokenOf card) now e) :
    (c.decide name card now).isAllow = false ↔ c.ShowsRefusal name card e := by
  constructor
  · intro refused
    by_contra passed
    obtain ⟨unlocked, undenied⟩ := not_or.mp passed
    have allowed := decide_isAllow.mpr ⟨(Bool.not_eq_true _).mp unlocked, e, found, enabled, undenied, admits⟩
    rw [refused] at allowed
    cases allowed
  · intro shows
    rw [Bool.eq_false_iff]
    intro allowed
    obtain ⟨unlocked, e', found', -, undenied, -⟩ := decide_isAllow.mp allowed
    obtain rfl := Option.some.inj (found.symm.trans found')
    rcases shows with locked | denied
    · rw [unlocked] at locked
      cases locked
    · exact undenied denied

theorem decide_refuses_of_shows {e : Entry Uuid} (found : c.policy.find name = some e)
    (shows : e.enabled = true → c.LetsIn name (c.tokenOf card) now e → c.ShowsRefusal name card e) :
    (c.decide name card now).isAllow = false := by
  rw [Bool.eq_false_iff]
  intro allowed
  obtain ⟨-, e', found', enabled, -, admits⟩ := decide_isAllow.mp allowed
  obtain rfl := Option.some.inj (found.symm.trans found')
  rw [(decide_refuses_iff found enabled admits).mpr (shows enabled admits)] at allowed
  cases allowed

/-- Refusals come first exactly when those of the entry are not missed where it is enabled and something would let the
card in: the name it is asked by is locked where it is locked out itself, or it denies the very token that is made of
the card where it denies the card's digest, or one of these shows in place of the other. -/
theorem refusals_come_first_iff (digester : CardDigester) (c : ResourceCache Uuid Amps) (name card : String)
    (now : Int) :
    c.RefusesFirst digester name card now ↔ ∀ e, c.policy.find name = some e → e.enabled = true →
      c.LetsIn name (c.tokenOf card) now e → c.LockedOut e ∨ DeniesCard digester e card →
        c.ShowsRefusal name card e := by
  constructor
  · intro first e found enabled admits refusal
    refine (decide_refuses_iff found enabled admits).mp ?_
    rcases refusal with lockedOut | denied
    · exact first.lockedOut e found lockedOut
    · exact first.denied e found denied
  · intro shows
    refine ⟨fun e found lockedOut => ?_, fun e found off => decide_refuses_of_disabled found off,
      fun e found denied => ?_, fun e found online unlocked enabled undenied idle unlisted => ?_, member_of_decide⟩
    · exact decide_refuses_of_shows found fun enabled admits => shows e found enabled admits (.inl lockedOut)
    · exact decide_refuses_of_shows found fun enabled admits => shows e found enabled admits (.inr denied)
    · exact decide_askServer found online unlocked enabled undenied idle unlisted

section
def doorKey : CardDigester where
  wireDigest _ := some (List.replicate 32 7)
  length_wireDigest _ _ same := by
    obtain rfl := Option.some.inj same
    rfl

/-- A saw that is held open, and a second one of the same name. -/
def heldSaw (deny : List String) : Entry HexId :=
  ⟨.repeating 1, some "saw", .door, "", "", false, true, none, [], deny, some (seconds 60)⟩

def secondSaw : Entry HexId := ⟨.repeating 2, some "saw", .tool, "", "idle", false, true, none, [], [], none⟩

/-- The edge of both, with its digester or without, and the power snapshot it was sent last. -/
def twoSaws (own : Option CardDigester) (deny locked : List String) : ResourceCache HexId Nat where
  wiring := .new
  allowList := ⟨none, own⟩
  power :=
    { PowerState.new with
      snapshot := some ⟨locked, [], [⟨HexId.toText (.repeating 2), some "saw", none⟩,
        ⟨HexId.toText (.repeating 1), some "saw", none⟩]⟩ }
  policy := ⟨[heldSaw deny, secondSaw], .empty, [], none⟩
  holdSent := .empty

/-- Asked whether the name is locked, the power state looks at the second saw; and without a digester
a denied card has no token to be denied by. Each time the hold lets it in. -/
theorem refusals_missed :
    ¬ (twoSaws (some doorKey) [] [HexId.toText (.repeating 1)]).RefusesFirst doorKey "saw" "card" 0 ∧
      ¬ (twoSaws none [hexEncode (List.replicate 32 7)] []).RefusesFirst doorKey "saw" "card" 0 := by
  constructor
  · intro first
    have refused := first.lockedOut (heldSaw []) (by decide) ⟨_, rfl, .inl (List.mem_singleton_self _)⟩
    have allowed : ((twoSaws (some doorKey) [] [HexId.toText (.repeating 1)]).decide "saw" "card" 0).isAllow =
        true := by
      decide
    rw [allowed] at refused
    cases refused
  · intro first
    have refused := first.denied (heldSaw [hexEncode (List.replicate 32 7)]) (by decide)
      ⟨_, rfl, List.mem_singleton_self _⟩
    have allowed : ((twoSaws none [hexEncode (List.replicate 32 7)] []).decide "saw" "card" 0).isAllow = true := by
      decide
    rw [allowed] at refused
    cases refused

end

end ResourceCache
end CoopSpaces
