import CoopSpaces.Edge.Resources

namespace CoopSpaces

theorem ToolGuardState.wireDigestHex_ne_empty {Uuid : Type} {s : ToolGuardState Uuid} {card digest : String}
    (made : s.wireDigestHex card = some digest) : digest ≠ "" := by
  obtain ⟨bytes, hashed, rfl⟩ := Option.map_eq_some_iff.mp made
  obtain ⟨digester, -, derived⟩ := Option.bind_eq_some_iff.mp hashed
  have length := digester.length_wireDigest card bytes derived
  refine hexEncode_ne_empty ?_
  rintro rfl
  simp at length

variable {Uuid Amps : Type} [DecidableEq Uuid] [IdText Uuid]

def ScanDecision.isAllow : ScanDecision → Bool
  | .allow _ => true
  | _ => false

theorem ScanDecision.isAllow_iff {decision : ScanDecision} :
    decision.isAllow = true ↔ ∃ strikeMs, decision = .allow strikeMs := by
  cases decision <;> simp [isAllow]

namespace ResourceCache

def HoldLive (c : ResourceCache Uuid Amps) (name : String) (now : Int) : Prop :=
  ∃ e until_, c.policy.find name = some e ∧ e.holdUntil = some until_ ∧ now < until_

/-- A card is let in by name: a digest of it, really made and not empty, is one an
entry lists or an active member authorized for it carries. -/
def AdmittedByDigest (c : ResourceCache Uuid Amps) (name card : String) : Prop :=
  ∃ e digest, c.policy.find name = some e ∧ c.allowList.wireDigestHex card = some digest ∧ digest ≠ "" ∧
    (digest ∈ e.allow ∨ ∃ m ∈ c.policy.members, m.digest = digest ∧ m.isActive = true ∧ e.id ∈ m.authorized)

def MemberAdmits (c : ResourceCache Uuid Amps) (e : Entry Uuid) (token : String) : Prop :=
  ∃ m, c.policy.members.find? (fun m => constantTimeStrEq m.digest token) = some m ∧ m.isActive = true ∧
    e.id ∈ m.authorized ∧ (e.status = "" ∨ e.status = "idle")

def TokenAdmits (c : ResourceCache Uuid Amps) (e : Entry Uuid) (token : String) : Prop :=
  token ∈ e.allow ∨ (e.requiresOnline = false ∧ c.MemberAdmits e token)

theorem decideMember_isAllow {Uuid : Type} [DecidableEq Uuid] {members : List (Member Uuid)}
    {entry : Option (Entry Uuid)} {token : String} {strikeMs : Option Int} :
    (decideMember members entry token strikeMs).isAllow = true ↔
      ∃ e m, entry = some e ∧ members.find? (fun m => constantTimeStrEq m.digest token) = some m ∧
        m.isActive = true ∧ e.id ∈ m.authorized ∧ (e.status = "" ∨ e.status = "idle") := by
  unfold decideMember
  cases found : members.find? (fun m => constantTimeStrEq m.digest token) with
  | none => simp [ScanDecision.isAllow]
  | some m =>
    simp only [Option.some.injEq]
    by_cases active : m.isActive = true
    · rcases entry with _ | e
      · simp [ScanDecision.isAllow, active]
      · by_cases member : e.id ∈ m.authorized
        · by_cases busy : e.status ≠ "" ∧ e.status ≠ "idle"
          · simp [ScanDecision.isAllow, active, member, busy, Option.filter]
          · have free : e.status = "" ∨ e.status = "idle" := by
              rw [not_and_or, Decidable.not_not, Decidable.not_not] at busy
              exact busy
            simp [ScanDecision.isAllow, active, member, busy, free, Option.filter]
        · simp [ScanDecision.isAllow, active, member, Option.filter]
    · simp [ScanDecision.isAllow, active]

/-- What an allowing decision rests on, arm by arm. -/
theorem decide_isAllow {c : ResourceCache Uuid Amps} {name card : String} {now : Int} :
    (c.decide name card now).isAllow = true ↔
      c.power.isLocked name = false ∧ ∃ e, c.policy.find name = some e ∧ e.enabled = true ∧
        (c.allowList.wireDigestHex card).getD "" ∉ e.deny ∧
        (c.HoldLive name now ∨ c.TokenAdmits e ((c.allowList.wireDigestHex card).getD "")) := by
  unfold decide HoldLive TokenAdmits MemberAdmits
  by_cases locked : c.power.isLocked name = true
  · simp [locked, ScanDecision.isAllow]
  · rcases found : c.policy.find name with _ | e
    · simp [locked, decideMember_isAllow]
    · simp only [Option.some.injEq, ↓existsAndEq, true_and]
      by_cases enabled : e.enabled = true
      · by_cases denied : (c.allowList.wireDigestHex card).getD "" ∈ e.deny
        · simp [locked, enabled, denied, ScanDecision.isAllow]
        · by_cases live : ∃ until_, e.holdUntil = some until_ ∧ now < until_
          · have open_ : (e.holdUntil.any fun until_ => Decidable.decide (now < until_)) = true := by
              obtain ⟨until_, held, ahead⟩ := live
              simpa [held] using ahead
            simp [locked, enabled, denied, open_, live, ScanDecision.isAllow]
          · have passed : (e.holdUntil.any fun until_ => Decidable.decide (now < until_)) = false := by
              rcases held : e.holdUntil with _ | until_
              · rfl
              · simpa using fun ahead => live ⟨until_, held, ahead⟩
            by_cases listed : (c.allowList.wireDigestHex card).getD "" ∈ e.allow
            · simp [locked, enabled, denied, passed, listed, ScanDecision.isAllow]
            · by_cases online : e.requiresOnline = true
              · simp [locked, enabled, denied, passed, listed, online, live, ScanDecision.isAllow]
              · simp [locked, enabled, denied, passed, listed, online, live, decideMember_isAllow]
      · simp [locked, enabled, ScanDecision.isAllow]

/-- The empty token, which this edge presents for a card it cannot digest, is let
in: the resource is neither locked, disabled, held nor closed to it, and an
allow list or an authorized member's digest is empty. -/
def EmptyAdmits (c : ResourceCache Uuid Amps) (name : String) (now : Int) : Prop :=
  c.power.isLocked name = false ∧ ∃ e, c.policy.find name = some e ∧ e.enabled = true ∧ "" ∉ e.deny ∧
    ¬ c.HoldLive name now ∧ c.TokenAdmits e ""

theorem admitted_of_made {Uuid Amps : Type} [IdText Uuid] {c : ResourceCache Uuid Amps} {name card digest : String}
    {e : Entry Uuid}
    (made : c.allowList.wireDigestHex card = some digest) (found : c.policy.find name = some e)
    (admits : c.TokenAdmits e digest) : c.AdmittedByDigest name card := by
  refine ⟨e, digest, found, made, ToolGuardState.wireDigestHex_ne_empty made, ?_⟩
  rcases admits with listed | ⟨-, m, here, active, member, -⟩
  · exact .inl listed
  · have equal := List.find?_some here
    exact .inr ⟨m, List.mem_of_find?_eq_some here, constantTimeStrEq_iff.mp equal, active, member⟩

theorem allow_of_made {c : ResourceCache Uuid Amps} {name card digest : String} {now : Int}
    (made : c.allowList.wireDigestHex card = some digest) (allowed : (c.decide name card now).isAllow = true) :
    c.HoldLive name now ∨ c.AdmittedByDigest name card := by
  obtain ⟨-, e, found, -, -, live | admits⟩ := decide_isAllow.mp allowed
  · exact .inl live
  · rw [made, Option.getD_some] at admits
    exact .inr (admitted_of_made made found admits)

theorem allow_of_unmade {c : ResourceCache Uuid Amps} {name card : String} {now : Int}
    (unmade : c.allowList.wireDigestHex card = none) :
    ((c.decide name card now).isAllow = true → c.HoldLive name now) ↔ ¬ c.EmptyAdmits name now := by
  rw [decide_isAllow, unmade, Option.getD_none, EmptyAdmits]
  constructor
  · rintro held ⟨unlocked, e, found, enabled, undenied, idle, admits⟩
    exact idle (held ⟨unlocked, e, found, enabled, undenied, .inr admits⟩)
  · rintro closed ⟨unlocked, e, found, enabled, undenied, live | admits⟩
    · exact live
    · by_contra idle
      exact closed ⟨unlocked, e, found, enabled, undenied, idle, admits⟩

end ResourceCache

open ResourceCache in
/-- An edge lets a card in only under a hold or by a digest it really made, exactly
when it can digest the card or the empty token is nowhere admitted; and an edge
with no digester lets cards in under holds only exactly in the second case. -/
theorem allow_by_digest_iff (c : ResourceCache Uuid Amps) (name card : String) (now : Int) :
    (((c.decide name card now).isAllow = true → c.HoldLive name now ∨ c.AdmittedByDigest name card) ↔
      ((c.allowList.wireDigestHex card).isSome ∨ ¬ c.EmptyAdmits name now)) ∧
    (c.allowList.cardDigester = none →
      (((c.decide name card now).isAllow = true → c.HoldLive name now) ↔ ¬ c.EmptyAdmits name now)) := by
  refine ⟨?_, ?_⟩
  · rcases made : c.allowList.wireDigestHex card with _ | digest
    · have unadmitted : ¬ c.AdmittedByDigest name card := by
        rintro ⟨e, digest, -, present, -⟩
        rw [made] at present
        cases present
      simp only [unadmitted, or_false, Option.isSome_none, Bool.false_eq_true, false_or]
      exact allow_of_unmade made
    · simp only [Option.isSome_some, true_or, iff_true]
      exact allow_of_made made
  · intro noDigester
    refine allow_of_unmade ?_
    simp only [ToolGuardState.wireDigestHex, noDigester, Option.bind_none, Option.map_none]

def sawId : HexId := ⟨List.replicate 32 ⟨7, by decide⟩, rfl⟩

def keylessSync : SyncPayload HexId where
  deviceId := default
  profileField := "rfid"
  tools := [⟨sawId, some "saw", "Saw", .idle, false⟩]
  users := [⟨"", "Member", true, [sawId]⟩]

/-- An edge with no pepper that has taken in such a sync. -/
def keylessEdge : ResourceCache HexId Nat := (ResourceCache.new ⟨none, none⟩).applySyncAlias keylessSync

theorem keyless_edge_allows :
    keylessEdge.allowList.cardDigester = none ∧ (keylessEdge.decide "saw" "any card" 0).isAllow = true ∧
      ¬ keylessEdge.HoldLive "saw" 0 ∧ ¬ keylessEdge.AdmittedByDigest "saw" "any card" := by
  refine ⟨rfl, by decide, ?_, ?_⟩
  · rintro ⟨e, until_, found, held, -⟩
    have here : keylessEdge.policy.find "saw" =
        some (Entry.fromSyncTool ⟨sawId, some "saw", "Saw", .idle, false⟩) := by decide
    obtain rfl := Option.some.inj (here.symm.trans found)
    cases held
  · rintro ⟨e, digest, -, made, -⟩
    cases made

def memberDigest : String := hexEncode (List.replicate 32 1)

/-- A saw that lists one digest; a member authorized for it carries another. -/
def listedSaw : Entry HexId :=
  ⟨sawId, some "saw", .tool, "", "idle", false, true, none, [hexEncode (List.replicate 32 2)], [], none⟩

/-- An edge with no pepper, all of whose digests were made elsewhere. -/
def peopledEdge : ResourceCache HexId Nat :=
  { ResourceCache.new ⟨none, none⟩ with policy :=
    ⟨[listedSaw], .empty, [⟨memberDigest, "Member", true, [sawId]⟩], none⟩ }

/-- It lets cards in under holds only. -/
theorem allow_by_digest_iff_peopled :
    (peopledEdge.decide "saw" "any card" 0).isAllow = true → peopledEdge.HoldLive "saw" 0 := by
  refine ((allow_by_digest_iff peopledEdge "saw" "any card" 0).2 rfl).mpr ?_
  rintro ⟨-, e, found, -, -, -, listed | ⟨-, m, carries, -⟩⟩
  · have here : peopledEdge.policy.find "saw" = some listedSaw := by decide
    obtain rfl := Option.some.inj (here.symm.trans found)
    revert listed
    decide
  · have nobody : peopledEdge.policy.members.find? (fun m => constantTimeStrEq m.digest "") = none := by decide
    rw [nobody] at carries
    cases carries

end CoopSpaces
